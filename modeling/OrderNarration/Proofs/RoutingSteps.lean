import OrderNarration.Proofs.DottedNames

/-!
# Set-ups and records one after another

What a logger takes after a set-up depends on nothing but the level and the flag of the last
set-up and the name of the logger, whatever was set up before and whatever records were given
since. Each step keeps this, also in what the loggers remember.

## Implementation notes

A logger whose name ends with a dot comes to stand above names with two dots in a row, which
are not below the same loggers from then on. The invariant therefore speaks of steps that make
no such logger.
-/

namespace OrderNarration

namespace Binary64

/-- A finite number that is equal to an integer is its own floor, and positive if the integer
is. -/
theorem floor_of_whole? {negative : Bool} {significand : Nat} {exponent n : Int}
    (h : (Binary64.finite negative significand exponent).whole? = some n) :
    Binary64.floor negative significand exponent = n ∧
      (0 < n ↔ negative = false ∧ significand ≠ 0) := by
  obtain ⟨num, den, hfraction⟩ : ∃ num den, Binary64.fraction significand exponent = (num, den) :=
    ⟨_, _, rfl⟩
  obtain ⟨hnum, hpower⟩ := Prod.mk.inj hfraction
  have hup : 0 < Nat.pow 2 exponent.toNat := Nat.pow_pos (by decide)
  have hdown : 0 < den := hpower ▸ Nat.pow_pos (by decide)
  have hparts : (if num % den = 0 then
      some (if negative then -((num / den : Nat) : Int) else ((num / den : Nat) : Int))
      else none) = some n := by
    rw [← h, Binary64.whole?, Binary64.truncate, hfraction]
  obtain ⟨hwhole, hn⟩ := Option.ite_none_right_eq_some.mp hparts
  obtain ⟨whole, rfl⟩ := Nat.dvd_of_mod_eq_zero hwhole
  have hzero : whole = 0 ↔ significand = 0 := by
    have hproduct : den * whole = 0 ↔ significand = 0 := by
      rw [← hnum, Nat.mul_eq_zero, or_iff_left (Nat.ne_of_gt hup)]
    rwa [Nat.mul_eq_zero, or_iff_right (Nat.ne_of_gt hdown)] at hproduct
  have hden : (den : Int) ≠ 0 := Int.ofNat_ne_zero.mpr (Nat.ne_of_gt hdown)
  rw [Nat.mul_div_cancel_left _ hdown] at hn
  obtain rfl := Option.some.inj hn
  rw [Binary64.floor, hfraction]
  cases negative with
  | false =>
      refine ⟨?_, ?_⟩
      · simp [Int.mul_ediv_cancel_left _ hden]
      · simp [Nat.pos_iff_ne_zero, hzero]
  | true =>
      refine ⟨?_, ?_⟩
      · change -((den * whole : Nat) : Int) / den = -(whole : Int)
        rw [Int.natCast_mul, ← Int.mul_neg, Int.mul_ediv_cancel_left _ hden]
      · simp

end Binary64

namespace Logging

namespace Urgency

variable {u : Urgency} {least other : Level}

/-- An urgency that is equal to a level compares as this level. -/
theorem compare_of_level? {n : Level} (h : u.level? = some n) :
    (∀ least, u.reaches least = (level n).reaches least) ∧
      u.isPositive = (level n).isPositive := by
  cases u with
  | level m =>
      obtain rfl := Option.some.inj h
      exact ⟨fun _ => rfl, rfl⟩
  | number x =>
      cases x with
      | infinite => cases h
      | notANumber => cases h
      | finite negative significand exponent =>
          obtain ⟨hfloor, hpositive⟩ := Binary64.floor_of_whole? h
          refine ⟨fun least => congrArg (fun m => decide (least ≤ m)) hfloor, ?_⟩
          rw [Bool.eq_iff_iff]
          simp [isPositive, hpositive]

@[simp] theorem reaches_normal : u.normal.reaches least = u.reaches least := by
  rw [normal]
  cases hlevel : u.level? with
  | none => rfl
  | some n => exact ((compare_of_level? hlevel).1 least).symm

@[simp] theorem isPositive_normal : u.normal.isPositive = u.isPositive := by
  rw [normal]
  cases hlevel : u.level? with
  | none => rfl
  | some n => exact (compare_of_level? hlevel).2.symm

/-- The urgency passes a logger of the level. -/
def passes (u : Urgency) (least : Level) : Bool := u.isPositive && u.reaches least

theorem passes_normal : u.normal.passes least = u.passes least := by
  rw [passes, passes, reaches_normal, isPositive_normal]

end Urgency

/-- What is done with the loggers: they are set up, or one of them is given a record. -/
inductive Step where
  | setUp (level : Level) (debug : Bool)
  | given (record : Record)

/-- A step that makes no logger with a dot at the end of its name. -/
def Step.IsUndotted : Step → Prop
  | setUp _ _ => True
  | given record => record.logger.getLast? ≠ some dot

/-- A set-up with the debug file. -/
def Step.asksForFile : Step → Bool
  | setUp _ debug => debug
  | given _ => false

namespace Routing

variable {r : Routing} {name above : Text} {u : Urgency} {level : Level} {debug filed : Bool}

/-- The routing after a step. -/
def step (r : Routing) : Step → Routing
  | .setUp level debug => r.setUp level debug
  | .given record => r.asked record.logger record.urgency

/-- The routing after steps from the start. -/
def run (colored : Bool) (steps : List Step) : Routing := steps.foldl step (initial colored)

/-- The loggers above a name depend on the shorter names only. -/
theorem aboveFrom_congr {other : Routing} {reversed : Text}
    (h : ∀ above, above.length < reversed.length → r.knows above = other.knows above) :
    r.aboveFrom reversed = other.aboveFrom reversed := by
  fun_induction aboveFrom r reversed with
  | case1 d rest stem hknown ih =>
      have hstem := h stem (by simp [stem])
      rw [aboveFrom, if_pos rfl, if_pos (hstem.symm.trans hknown)]
      exact congrArg _ (ih fun above hlt => h above (Nat.lt_succ_of_lt hlt))
  | case2 d rest stem hunknown ih =>
      have hstem := h stem (by simp [stem])
      rw [aboveFrom, if_pos rfl, if_neg (hstem ▸ hunknown)]
      exact ih fun above hlt => h above (by simp only [List.length_cons]; omega)
  | case3 c d rest hc ih =>
      rw [aboveFrom, if_neg hc]
      exact ih fun above hlt => h above (Nat.lt_succ_of_lt hlt)
  | case4 reversed hshort => rw [aboveFrom]; exact hshort

theorem path_congr {other : Routing}
    (h : ∀ above, above ≠ name → (r.knows above = true ↔ other.knows above = true)) :
    r.path name = other.path name := by
  refine congrArg (name :: ·) (aboveFrom_congr fun above hlt => ?_)
  have hother : above ≠ name := by
    rintro rfl
    exact absurd hlt (by simp)
  exact Bool.eq_iff_iff.mpr (h above hother)

section Asked

/-- The routing with a logger of the name. -/
def withLogger (r : Routing) (name : Text) : Routing :=
  if r.knows name then r else { r with loggers := name :: r.loggers }

theorem withLogger_eq (r : Routing) (name : Text) :
    ∃ loggers, r.withLogger name = { r with loggers } ∧
      ∀ above, (r.withLogger name).knows above = true ↔ above = name ∨ r.knows above = true := by
  rw [withLogger]
  split
  next hknown =>
    refine ⟨r.loggers, rfl, fun above => (or_iff_right_of_imp ?_).symm⟩
    rintro rfl
    exact hknown
  next => exact ⟨name :: r.loggers, rfl, fun above => by simp [knows, or_assoc]⟩

/-- A new logger changes nothing on the way of its own records. -/
theorem path_withLogger : (r.withLogger name).path name = r.path name := by
  obtain ⟨-, -, hknows⟩ := r.withLogger_eq name
  exact path_congr fun above hother => (hknows above).trans (or_iff_right hother)

theorem isEnabled_withLogger : (r.withLogger name).isEnabled name u = r.isEnabled name u := by
  have hpath : (r.withLogger name).path name = r.path name := path_withLogger
  obtain ⟨loggers, heq, -⟩ := r.withLogger_eq name
  rw [isEnabled, isEnabled, effectiveLevel, effectiveLevel, hpath, heq]
  rfl

theorem asked_eq : r.asked name u = { r.withLogger name with
    remembered := ((name, u.normal), r.isEnabled name u) :: r.remembered } := by
  have hremembered : (r.withLogger name).remembered = r.remembered := by
    obtain ⟨_, heq, -⟩ := r.withLogger_eq name
    rw [heq]
  rw [← isEnabled_withLogger, ← hremembered]
  rfl

theorem knows_asked :
    (r.asked name u).knows above = true ↔ above = name ∨ r.knows above = true := by
  obtain ⟨_, -, hknows⟩ := r.withLogger_eq name
  rw [asked_eq]
  exact hknows above

end Asked

section Levels

/-- The level that counts for a name after a set-up. -/
def levelAfter (level : Level) (debug : Bool) (name : Text) : Level :=
  if IsUnder application name then if debug then Level.debug else level
  else if ∃ quiet ∈ quieted, IsUnder quiet name then Level.warning
  else level

/-- Only the loggers that set-ups speak of have levels, there is a debug file if one was asked for,
and no logger has a name with a dot at its end. -/
structure IsOrderly (r : Routing) (filed : Bool) : Prop where
  levels : ∀ name, name ≠ application → name ∉ quieted → Entries.get? name r.levels = none
  file : r.file = if filed then [Level.debug] else []
  undotted : r.Undotted

/-- The levels and the console are those of a set-up, and what the loggers remember agrees with
them. -/
structure IsSetUp (r : Routing) (level : Level) (debug filed : Bool) : Prop
    extends r.IsOrderly filed where
  root : r.rootLevel = level
  own : Entries.get? application r.levels = some (if debug then Level.debug else level)
  quiet : ∀ name ∈ quieted, Entries.get? name r.levels = some Level.warning
  console : r.console = [if debug then Level.info else Level.notSet]
  remembered : ∀ e ∈ r.remembered, e.2 = e.1.2.passes (levelAfter level debug e.1.1)

/-- All levels on the way of a name being equal, or without effect, the level that counts is known
from one of them or from the root. -/
theorem effectiveLevel_eq (hall : ∀ above ∈ r.path name, ∀ own,
      Entries.get? above r.levels = some own → own ≠ Level.notSet → own = level)
    (hsome : (∃ above ∈ r.path name, Entries.get? above r.levels = some level) ∨
      r.rootLevel = level) (hroot : level = Level.notSet → r.rootLevel = level) :
    r.effectiveLevel name = level := by
  rw [effectiveLevel]
  generalize hown : (r.path name).filterMap _ = own
  cases own with
  | nil =>
      -- a level on the way is then the one that has no effect
      rcases hsome with ⟨above, habove, hlevel⟩ | hlevel
      · have hnone := List.filterMap_eq_nil_iff.mp hown above habove
        by_cases hset : level = Level.notSet
        · exact hroot hset
        · simp [hlevel, hset] at hnone
      · exact hlevel
  | cons found rest =>
      have hfound : found ∈ found :: rest := List.mem_cons_self
      rw [← hown, List.mem_filterMap] at hfound
      obtain ⟨above, habove, hlevel⟩ := hfound
      split at hlevel
      next own hget =>
        obtain ⟨hset, hfound⟩ := Option.ite_none_left_eq_some.mp hlevel
        obtain rfl := Option.some.inj hfound
        exact hall above habove own hget hset
      next => cases hlevel

theorem head?_eq_of_begins {start : Text} (h : start <+: name) (hstart : start ≠ []) :
    name.head? = start.head? := by
  obtain ⟨rest, rfl⟩ := h
  cases start with
  | nil => exact absurd rfl hstart
  | cons => rfl

/-- A name does not begin both with the application's and with that of a quiet library. -/
theorem not_prefix_of_quieted (happ : application <+: name) :
    ∀ quiet ∈ quieted, ¬ quiet <+: name := by
  intro quiet hquiet h
  have hheads : ∀ quiet ∈ quieted, quiet ≠ [] ∧ quiet.head? ≠ application.head? := by decide +kernel
  obtain ⟨hne, hhead⟩ := hheads quiet hquiet
  exact hhead ((head?_eq_of_begins h hne).symm.trans (head?_eq_of_begins happ (by decide +kernel)))

theorem IsOrderly.eq_or_mem_of_level {own : Level} (h : r.IsOrderly filed)
    (hown : Entries.get? name r.levels = some own) : name = application ∨ name ∈ quieted := by
  by_contra hnone
  rw [not_or] at hnone
  rw [h.levels name hnone.1 hnone.2] at hown
  cases hown

theorem knows_of_level {own : Level} (h : Entries.get? name r.levels = some own) :
    r.knows name = true := by
  simp [knows, h]

theorem IsSetUp.mem_path_iff_application (s : r.IsSetUp level debug filed) :
    application ∈ r.path name ↔ IsUnder application name :=
  mem_path_iff s.undotted (knows_of_level s.own) (by decide +kernel)

theorem IsSetUp.mem_path_iff_quiet (s : r.IsSetUp level debug filed) {quiet : Text}
    (h : quiet ∈ quieted) : quiet ∈ r.path name ↔ IsUnder quiet name :=
  mem_path_iff s.undotted (knows_of_level (s.quiet quiet h))
    ((by decide +kernel : ∀ quiet ∈ quieted, quiet ≠ []) quiet h)

/-- After a set-up the level that counts for a name is given by its level and its flag. -/
theorem IsSetUp.effectiveLevel (s : r.IsSetUp level debug filed) (name : Text) :
    r.effectiveLevel name = levelAfter level debug name := by
  rw [levelAfter]
  -- no name begins with the application's and a library's, so all levels on the way are equal
  by_cases happ : IsUnder application name
  · rw [if_pos happ]
    have hpath := s.mem_path_iff_application.mpr happ
    refine effectiveLevel_eq ?_ (.inl ⟨application, hpath, s.own⟩) ?_
    · intro above habove own hown _
      rcases s.eq_or_mem_of_level hown with rfl | hquiet
      · exact Option.some.inj (hown.symm.trans s.own)
      · exact absurd (prefix_of_mem_path habove)
          (not_prefix_of_quieted (prefix_of_mem_path hpath) above hquiet)
    · intro hzero
      cases debug with
      | true =>
          rw [if_pos rfl] at hzero
          exact absurd hzero (by decide)
      | false => exact s.root
  · have hother : ∀ above ∈ r.path name, ∀ own, Entries.get? above r.levels = some own →
        above ∈ quieted ∧ IsUnder above name := by
      intro above habove own hown
      rcases s.eq_or_mem_of_level hown with rfl | hquiet
      · exact absurd (s.mem_path_iff_application.mp habove) happ
      · exact ⟨hquiet, (s.mem_path_iff_quiet hquiet).mp habove⟩
    rw [if_neg happ]
    split
    next hquiet =>
      obtain ⟨quiet, hquiet, hunder⟩ := hquiet
      have hpath := (s.mem_path_iff_quiet hquiet).mpr hunder
      refine effectiveLevel_eq ?_ (.inl ⟨quiet, hpath, s.quiet quiet hquiet⟩) ?_
      · intro above habove own hown _
        obtain ⟨habove, -⟩ := hother above habove own hown
        exact Option.some.inj (hown.symm.trans (s.quiet above habove))
      · exact fun hzero => absurd hzero (by decide)
    next hloud =>
      refine effectiveLevel_eq ?_ (.inr s.root) fun _ => s.root
      intro above habove own hown _
      exact absurd ⟨above, hother above habove own hown⟩ hloud

/-- After a set-up a logger takes what passes the level that counts for its name, remembered or
not. -/
theorem IsSetUp.isEnabled (s : r.IsSetUp level debug filed) (name : Text) (u : Urgency) :
    r.isEnabled name u = u.passes (levelAfter level debug name) := by
  rw [Routing.isEnabled, remembered?]
  cases hfind : r.remembered.find? fun e => e.1 = (name, u.normal) with
  | none => exact congrArg u.passes (s.effectiveLevel name)
  | some e =>
      have hkey : e.1 = (name, u.normal) := by simpa using List.find?_some hfind
      have hvalue := s.remembered e (List.mem_of_find?_eq_some hfind)
      rw [hkey, Urgency.passes_normal] at hvalue
      exact hvalue

end Levels

section Kept

theorem IsOrderly.initial (colored : Bool) : (initial colored).IsOrderly false where
  levels _ _ _ := rfl
  file := rfl
  undotted _ h := by simp [knows, Routing.initial, Entries.get?] at h

theorem get?_foldl_put (names : List Text) (level : Level) (levels : Entries Level) :
    Entries.get? name (names.foldl (fun levels name => Entries.put name level levels) levels) =
      if name ∈ names then some level else Entries.get? name levels := by
  induction names generalizing levels with
  | nil => simp
  | cons other rest ih =>
      rw [List.foldl_cons, ih, Entries.get?_put]
      by_cases hname : name = other <;> simp [hname]

theorem get?_setUp : Entries.get? name (r.setUp level debug).levels =
    if name = application then some (if debug then Level.debug else level)
    else if name ∈ quieted then some Level.warning
    else Entries.get? name r.levels := by
  rw [setUp, Entries.get?_put, get?_foldl_put]

theorem knows_setUp (h : (r.setUp level debug).knows name = true) :
    name = application ∨ name ∈ quieted ∨ r.knows name = true := by
  rw [knows, get?_setUp] at h
  by_cases happ : name = application
  · exact .inl happ
  · by_cases hquiet : name ∈ quieted
    · exact .inr (.inl hquiet)
    · rw [if_neg happ, if_neg hquiet] at h
      exact .inr (.inr h)

/-- A set-up gives the loggers its own levels whatever they had before. -/
theorem IsOrderly.setUp (h : r.IsOrderly filed) (level : Level) (debug : Bool) :
    (r.setUp level debug).IsSetUp level debug (filed || debug) where
  levels name happ hquiet := by
    rw [get?_setUp, if_neg happ, if_neg hquiet, h.levels name happ hquiet]
  file := by
    rw [Routing.setUp, h.file]
    cases filed <;> cases debug <;> rfl
  undotted name hknown := by
    have hnames : ∀ name ∈ application :: quieted, name.getLast? ≠ some dot := by decide +kernel
    rcases knows_setUp hknown with rfl | hquiet | hknown
    · exact hnames application List.mem_cons_self
    · exact hnames name (List.mem_cons_of_mem _ hquiet)
    · exact h.undotted name hknown
  root := rfl
  own := get?_setUp.trans (if_pos rfl)
  quiet name hquiet := by
    have hother : name ≠ application :=
      (by decide +kernel : ∀ name ∈ quieted, name ≠ application) name hquiet
    rw [get?_setUp, if_neg hother, if_pos hquiet]
  console := rfl
  remembered _ h := absurd h List.not_mem_nil

theorem IsOrderly.asked (h : r.IsOrderly filed) (hname : name.getLast? ≠ some dot) :
    (r.asked name u).IsOrderly filed := by
  obtain ⟨_, heq, -⟩ := r.withLogger_eq name
  refine ⟨?_, ?_, fun other hknown => ?_⟩
  · rw [asked_eq, heq]
    exact h.levels
  · rw [asked_eq, heq]
    exact h.file
  · rcases knows_asked.mp hknown with rfl | hknown
    · exact hname
    · exact h.undotted other hknown

/-- A logger that was asked remembers what it would take without remembering. -/
theorem IsSetUp.asked (s : r.IsSetUp level debug filed) (hname : name.getLast? ≠ some dot) :
    (r.asked name u).IsSetUp level debug filed := by
  have horderly := s.toIsOrderly.asked (u := u) hname
  obtain ⟨_, heq, -⟩ := r.withLogger_eq name
  rw [asked_eq, heq] at horderly ⊢
  refine ⟨horderly, s.root, s.own, s.quiet, s.console, fun e he => ?_⟩
  rcases List.mem_cons.mp he with rfl | he
  · exact (s.isEnabled name u).trans Urgency.passes_normal.symm
  · exact s.remembered e he

end Kept

section Runs

variable {steps : List Step} {s : Step}

theorem IsOrderly.step (h : r.IsOrderly filed) (undotted : s.IsUndotted) :
    (r.step s).IsOrderly (filed || s.asksForFile) := by
  cases s with
  | setUp level debug => exact (h.setUp level debug).toIsOrderly
  | given record => exact (Bool.or_false filed).symm ▸ h.asked undotted

theorem IsSetUp.step (h : r.IsSetUp level debug filed) (undotted : s.IsUndotted) :
    ∃ level debug, (r.step s).IsSetUp level debug (filed || s.asksForFile) := by
  cases s with
  | setUp level debug => exact ⟨level, debug, h.toIsOrderly.setUp level debug⟩
  | given record => exact ⟨level, debug, (Bool.or_false filed).symm ▸ h.asked undotted⟩

/-- Steps keep a routing orderly, with a debug file if one of them asked for it. -/
theorem IsOrderly.foldl (h : r.IsOrderly filed) (undotted : ∀ s ∈ steps, s.IsUndotted) :
    (steps.foldl Routing.step r).IsOrderly (filed || steps.any Step.asksForFile) := by
  induction steps generalizing r filed with
  | nil => exact (Bool.or_false filed).symm ▸ h
  | cons s rest ih =>
      rw [List.any_cons, ← Bool.or_assoc]
      exact ih (h.step (undotted s List.mem_cons_self))
        fun s hs => undotted s (List.mem_cons_of_mem _ hs)

/-- Steps keep a routing that is set up in the state of some set-up. -/
theorem IsSetUp.foldl (h : r.IsSetUp level debug filed) (undotted : ∀ s ∈ steps, s.IsUndotted) :
    ∃ level debug, (steps.foldl Routing.step r).IsSetUp level debug
      (filed || steps.any Step.asksForFile) := by
  induction steps generalizing r level debug filed with
  | nil => exact ⟨level, debug, (Bool.or_false filed).symm ▸ h⟩
  | cons s rest ih =>
      obtain ⟨level, debug, hstep⟩ := h.step (undotted s List.mem_cons_self)
      rw [List.any_cons, ← Bool.or_assoc]
      exact ih hstep fun s hs => undotted s (List.mem_cons_of_mem _ hs)

end Runs

end Routing

end Logging

end OrderNarration
