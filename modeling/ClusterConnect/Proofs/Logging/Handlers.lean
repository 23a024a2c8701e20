import ClusterConnect.Proofs.Environment.Actions

/-!
# The handler of the log

The driver attaches handlers to its log, one at a time, and lets go of each of them again. This file
follows them over any sequence of calls, whatever becomes of the files that are opened on the way.

* `LogCall`: a call that changes the log; `runFrom_configureLogging`: the driver's own calls.
* `Tidy`: what holds of the handlers and of the file in use. `Tidy.release`, `Tidy.attach`: the two
  steps that a call is made of; `Tidy.perform`: a call leaves things tidy.
* `LogCall.at_most_one_handler`: the same after any calls.

Handlers that the surrounding program has attached to the log before are left alone.
-/

namespace ClusterConnect

/-! ## Calls -/

/-- A call that changes the log. -/
inductive LogCall where
  /-- Applies the two properties. `opening` is what comes of opening the file that they name, if it
  is opened. -/
  | configure (props : Properties) (opening : LogFile)
  /-- Undoes all settings. -/
  | reset

namespace LogCall

/-- The level that properties ask for. -/
def request? (props : Properties) : Option LevelRequest :=
  (Property.loggerLevel.get? props).map LevelRequest.ofText

/-- The settings after a call. -/
def perform (l : Logging) : LogCall → Logging
  | .configure props opening =>
    (l.configure (request? props)
      ((Property.loggerFile.get? props).map fun name => (name, opening))).1
  | .reset => l.reset

/-- A file that a call opens is where its name says. -/
def OpensAt (place : String → Location) : LogCall → Prop
  | .configure props (.opened location) =>
    ∀ name, Property.loggerFile.get? props = some name → location = place name
  | _ => True

end LogCall

open LogCall

theorem eq_of_fileToOpen? {l : Logging} {request : Option LevelRequest} {file : Option String}
    {name : String} (h : l.fileToOpen? request file = some name) : file = some name := by
  unfold Logging.fileToOpen? at h
  split at h
  · exact absurd h (by simp)
  · exact absurd h (by simp)
  · exact (Option.filter_eq_some_iff.mp h).1

theorem location_of_openLog {files : FileTree} {name : String} {location : Location}
    (h : (openLog files name).1 = .opened location) :
    location = files.absoluteLocation (Path.ofText name) := by
  unfold openLog at h
  dsimp only at h
  split at h
  · exact (LogFile.opened.inj h).symm
  · dsimp only at h
    split at h <;> exact absurd h (by simp)

/-- Where the driver applies the two properties, its log is changed by such a call, and fails as it
does. Names of files start from the working directory. -/
theorem runFrom_configureLogging {τ : Type} (props : Properties) (env : Environment τ) :
    ∃ opening, ((configureLogging props).runFrom env).1 =
        (env.logging.configure (request? props)
          ((Property.loggerFile.get? props).map fun name => (name, opening))).2.2 ∧
      ((configureLogging props).runFrom env).2.logging =
        perform env.logging (.configure props opening) ∧
      (LogCall.configure props opening).OpensAt
        fun name => env.files.absoluteLocation (Path.ofText name) := by
  unfold configureLogging
  rw [Act.runFrom_bind_of_ok (Act.runFrom_get env)]
  cases htoOpen : env.logging.fileToOpen? (request? props) (Property.loggerFile.get? props) with
  | none =>
    refine ⟨.refused, ?_, ?_, trivial⟩ <;>
    · unfold request? at htoOpen
      simp only [htoOpen]
      rw [Act.runFrom_bind_of_ok (Act.runFrom_set _ env)]
      split <;> rfl
  | some name =>
    refine ⟨(openLog env.files name).1, ?_, ?_, ?_⟩
    case refine_3 =>
      have hname := eq_of_fileToOpen? htoOpen
      cases hopening : (openLog env.files name).1 with
      | opened location =>
        intro name' hname'
        obtain rfl := Option.some.inj (hname.symm.trans hname')
        exact location_of_openLog hopening
      | refused => trivial
      | failed f => trivial
    all_goals
      unfold request? at htoOpen
      simp only [htoOpen]
      rw [Act.runFrom_bind_of_ok (Act.runFrom_set _ env)]
      split <;> rfl

theorem logging_configureLogging {τ : Type} (props : Properties) (env : Environment τ) :
    ∃ opening, ((configureLogging props).runFrom env).2.logging =
        perform env.logging (.configure props opening) ∧
      (LogCall.configure props opening).OpensAt
        fun name => env.files.absoluteLocation (Path.ofText name) := by
  obtain ⟨opening, -, hcall⟩ := runFrom_configureLogging props env
  exact ⟨opening, hcall⟩

/-! ## Handlers that are accounted for -/

/-- What holds of the log after some calls, which have begun with the settings `start`. `place` tells
where the files are. -/
structure Tidy (start : Logging) (place : String → Location) (l : Logging) : Prop where
  /-- The handler in use is the only one attached beside those that were there before. -/
  attached : l.attached = start.attached ++ l.current.toList
  /-- It is one of those made since. -/
  own : ∀ h ∈ l.current, start.next ≤ h.serial ∧ h.serial < l.next
  /-- Every other one made since has been closed once, and nothing else has been closed. -/
  closed : ∀ serial, l.released.count serial =
    if start.next ≤ serial ∧ serial < l.next ∧ serial ∉ l.current.map (·.serial) then 1 else 0
  /-- The file that is remembered is the one that the handler in use writes to. None is remembered if
  it writes to the error output, or if there is none in use. -/
  target : l.target.map place = l.current.bind (·.file)
  /-- Records do not go to the surrounding program while a handler is in use. -/
  silent : l.current.isSome → l.propagates = false
  /-- Serial numbers only grow. -/
  grown : start.next ≤ l.next

/-- The driver has not touched the log so far. The handlers of the surrounding program are others
than those that the driver is going to make. -/
structure Logging.Untouched (l : Logging) : Prop where
  current : l.current = none
  target : l.target = none
  released : l.released = []
  others : ∀ h ∈ l.attached, h.serial < l.next

variable {start l : Logging} {place : String → Location}

theorem tidy_of_untouched (h : start.Untouched) : Tidy start place start where
  attached := by rw [h.current]; exact (List.append_nil _).symm
  own := by simp [h.current]
  closed serial := by
    rw [h.released, List.count_nil, if_neg]
    rintro ⟨hge, hlt, -⟩
    exact Nat.not_lt.mpr hge hlt
  target := by rw [h.current, h.target]; rfl
  silent := by simp [h.current]
  grown := Nat.le_refl _

namespace Tidy

/-- The level has no part in it. -/
theorem withLevel (h : Tidy start place l) (level : Level) : Tidy start place { l with level } :=
  ⟨h.attached, h.own, h.closed, h.target, h.silent, h.grown⟩

theorem setLevel (h : Tidy start place l) (r : LevelRequest) : Tidy start place (l.setLevel r) := by
  cases r with
  | off => exact h.withLevel Level.silent
  | set level => exact h.withLevel level
  | unknown => exact h

/-! ## The two steps of a call -/

/-- Detaching the handler in use and closing it leaves things tidy. -/
theorem release (hothers : ∀ h ∈ start.attached, h.serial < start.next) (h : Tidy start place l) :
    Tidy start place l.release := by
  cases hcurrent : l.current with
  | none =>
    have hsame : l.release = l := by
      unfold Logging.release
      rw [hcurrent]
    rw [hsame]
    exact h
  | some handler =>
    have hreleased : l.release =
        { l with
          attached := l.attached.filter (·.serial != handler.serial)
          released := handler.serial :: l.released
          current := none
          target := none } := by
      unfold Logging.release
      rw [hcurrent]
    have hown : start.next ≤ handler.serial ∧ handler.serial < l.next := h.own handler hcurrent
    have hleft : l.attached.filter (·.serial != handler.serial) = start.attached := by
      have hkept : start.attached.filter (·.serial != handler.serial) = start.attached := by
        refine List.filter_eq_self.mpr fun other hother => ?_
        have hless := hothers other hother
        exact bne_iff_ne.mpr (by omega)
      rw [h.attached, hcurrent, List.filter_append, hkept]
      simp
    have hclosed : ∀ serial, (handler.serial :: l.released).count serial =
        if start.next ≤ serial ∧ serial < l.next then 1 else 0 := by
      intro serial
      rw [List.count_cons, h.closed, hcurrent]
      by_cases hs : serial = handler.serial
      · subst hs
        simp [hown]
      · simp [Ne.symm hs]
    rw [hreleased]
    exact {
      attached := by rw [hleft]; exact (List.append_nil _).symm
      own := by simp
      closed := by simpa using hclosed
      target := rfl
      silent := by simp
      grown := h.grown }

/-- Attaching a new handler leaves things tidy if there is none in use. -/
theorem attach {file : Option Location} {target : Option String} (h : Tidy start place l)
    (hnone : l.current = none) (hfile : target.map place = file) :
    Tidy start place (l.attach file target) where
  attached := by
    show l.attached ++ [_] = _
    rw [h.attached, hnone, Option.toList_none, List.append_nil]
    rfl
  own := by
    intro handler hhandler
    obtain rfl := Option.some.inj hhandler
    exact ⟨h.grown, Nat.lt_succ_self _⟩
  closed serial := by
    have hgrown := h.grown
    have hrange : (start.next ≤ serial ∧ serial < l.next) ↔
        start.next ≤ serial ∧ serial < l.next + 1 ∧ ¬ l.next = serial := by omega
    show l.released.count serial =
      if start.next ≤ serial ∧ serial < l.next + 1 ∧ serial ∉ some l.next then 1 else 0
    rw [h.closed, hnone]
    simp only [Option.map_none, Option.not_mem_none, not_false_iff, and_true, Option.mem_some_iff,
      hrange]
  target := hfile
  silent _ := rfl
  grown := Nat.le_succ_of_le h.grown

end Tidy

/-! ## Calls -/

namespace Logging

theorem current_release (l : Logging) : l.release.current = none := by
  unfold release
  split
  · assumption
  · rfl

theorem target_setLevel (l : Logging) (r : LevelRequest) : (l.setLevel r).target = l.target := by
  cases r <;> rfl

/-- The settings after a configuration that asks for a level other than `OFF`. -/
theorem configure_of_ne_off {r : LevelRequest} (h : r ≠ .off) (l : Logging)
    (file : Option (String × LogFile)) :
    (l.configure (some r) file).1 =
      match file with
      | none => (l.setLevel r).release.attach none none
      | some (name, opening) =>
        if l.target = some name then l.setLevel r
        else
          match opening with
          | .opened location => (l.setLevel r).release.attach (some location) (some name)
          | .refused => (l.setLevel r).release.attach none none
          | .failed _ => (l.setLevel r).release := by
  cases r with
  | off => exact absurd rfl h
  | set _ | unknown =>
    rcases file with _ | ⟨name, opening⟩
    · rfl
    · simp only [configure, target_setLevel]
      split
      · rfl
      · cases opening <;> rfl

end Logging

variable {props : Properties} {opening : LogFile} {name : String}

theorem LogCall.perform_configure (l : Logging) (props : Properties) (opening : LogFile) :
    perform l (.configure props opening) =
      (l.configure (request? props)
        ((Property.loggerFile.get? props).map fun name => (name, opening))).1 := rfl

/-- Without a level nothing changes. -/
theorem LogCall.perform_of_none (h : request? props = none) :
    perform l (.configure props opening) = l := by
  rw [perform_configure, h]
  rfl

/-- `OFF` changes the level only. -/
theorem LogCall.perform_of_off (h : request? props = some .off) :
    perform l (.configure props opening) = { l with level := Level.silent } := by
  rw [perform_configure, h]
  rfl

theorem Logging.setLevel_eq (l : Logging) (r : LevelRequest) :
    ∃ level, l.setLevel r = { l with level } := by
  cases r with
  | off => exact ⟨Level.silent, rfl⟩
  | set level => exact ⟨level, rfl⟩
  | unknown => exact ⟨l.level, rfl⟩

/-- The file in use is not opened again, and its handler stays. -/
theorem LogCall.perform_of_target (htarget : l.target = some name)
    (hname : Property.loggerFile.get? props = some name) :
    ∃ level, perform l (.configure props opening) = { l with level } := by
  cases hrequest : request? props with
  | none => exact ⟨l.level, perform_of_none hrequest⟩
  | some r =>
    by_cases hoff : r = .off
    · subst hoff
      exact ⟨Level.silent, perform_of_off hrequest⟩
    · rw [perform_configure, hrequest, hname, Option.map_some, Logging.configure_of_ne_off hoff]
      dsimp only
      rw [if_pos htarget]
      exact l.setLevel_eq r

namespace Tidy

/-- Undoing all settings leaves things tidy. -/
theorem reset (hothers : ∀ h ∈ start.attached, h.serial < start.next) (h : Tidy start place l) :
    Tidy start place l.reset := by
  have hreleased := h.release hothers
  have hvacant : l.reset.current = none := l.current_release
  exact {
    attached := hreleased.attached
    own := hreleased.own
    closed := hreleased.closed
    target := by
      rw [hvacant]
      rfl
    silent := by simp [hvacant]
    grown := hreleased.grown }

/-- A call leaves things tidy. -/
theorem perform (hothers : ∀ h ∈ start.attached, h.serial < start.next) (h : Tidy start place l)
    {c : LogCall} (hopens : c.OpensAt place) : Tidy start place (c.perform l) := by
  cases c with
  | reset => exact h.reset hothers
  | configure props opening =>
    cases hrequest : request? props with
    | none =>
      rw [perform_of_none hrequest]
      exact h
    | some r =>
      by_cases hoff : r = .off
      · subst hoff
        rw [perform_of_off hrequest]
        exact h.withLevel Level.silent
      · have hset := h.setLevel r
        have hreleased := hset.release hothers
        have hvacant := (l.setLevel r).current_release
        have hfallen : Tidy start place ((l.setLevel r).release.attach none none) :=
          hreleased.attach hvacant rfl
        rw [perform_configure, hrequest, Logging.configure_of_ne_off hoff]
        cases hname : Property.loggerFile.get? props with
        | none => exact hfallen
        | some name =>
          dsimp only [Option.map_some]
          split
          · exact hset
          · cases opening with
            | opened location =>
              exact hreleased.attach hvacant (congrArg some (hopens name hname).symm)
            | refused => exact hfallen
            | failed f => exact hreleased

theorem performAll (hothers : ∀ h ∈ start.attached, h.serial < start.next)
    (h : Tidy start place l) {calls : List LogCall} (hopens : ∀ c ∈ calls, c.OpensAt place) :
    Tidy start place (calls.foldl LogCall.perform l) := by
  induction calls generalizing l with
  | nil => exact h
  | cons c calls ih =>
    rw [List.foldl_cons]
    exact ih (h.perform hothers (hopens c List.mem_cons_self))
      fun c hc => hopens c (List.mem_cons_of_mem _ hc)

end Tidy

/-- **There is at most one handler of the driver.** After any calls, with any properties and whatever
comes of the files that are opened:

* beside the handlers that were attached before, the one in use is attached, if there is one; every
  other one that the driver has made has been detached and closed once; a file is remembered exactly
  if the one in use writes to a file, and it is that file; and while there is one in use, records do
  not go to the surrounding program;
* a call without a level changes nothing, and one with `OFF` changes the level only;
* a call that names the file in use changes the level only, so its handler stays;
* the same holds once the driver has applied the properties of a connection to such a log. -/
theorem LogCall.at_most_one_handler {τ : Type} (hstart : start.Untouched) {calls : List LogCall}
    (hopens : ∀ c ∈ calls, c.OpensAt place) :
    let l := calls.foldl perform start
    Tidy start place l ∧
    (∀ props opening, request? props = none → perform l (.configure props opening) = l) ∧
    (∀ props opening, request? props = some .off →
      perform l (.configure props opening) = { l with level := Level.silent }) ∧
    (∀ props opening name, l.target = some name → Property.loggerFile.get? props = some name →
      ∃ level, perform l (.configure props opening) = { l with level }) ∧
    ∀ (props : Properties) (env : Environment τ), env.logging = l →
      place = (fun name => env.files.absoluteLocation (Path.ofText name)) →
      Tidy start place ((configureLogging props).runFrom env).2.logging := by
  intro l
  have htidy : Tidy start place l := (tidy_of_untouched hstart).performAll hstart.others hopens
  refine ⟨htidy, fun _ _ => perform_of_none, fun _ _ => perform_of_off,
    fun _ _ _ => perform_of_target, ?_⟩
  rintro props env hlogging rfl
  obtain ⟨opening, hcall, hplaced⟩ := logging_configureLogging props env
  rw [hcall, hlogging]
  exact htidy.perform hstart.others hplaced

/-- A file that is opened, is named once more, and gives way to one that cannot be opened, in a
program with a handler of its own. -/
theorem LogCall.at_most_one_handler_refused :
    let props (level file : String) : Properties :=
      (Properties.empty.insert "loggerLevel" level).insert "loggerFile" file
    let start : Logging := { attached := [⟨0, none, Level.warning⟩], next := 1 }
    let calls : List LogCall :=
      [.configure (props "debug" "a.log") (.opened ["logs", "a.log"]),
       .configure (props "TRACE" "a.log") .refused,
       .configure (props "Debug" "b.log") (.failed (.ofForeign .unusableValue "b.log")),
       .configure (props "all" "b.log") .refused]
    let place (name : String) : Location := ["logs", name]
    let l := calls.foldl perform start
    start.Untouched ∧ (∀ c ∈ calls, c.OpensAt place) ∧ Tidy start place l ∧
      l.current = some ⟨2, none, Level.debug⟩ ∧ l.attached.length = 2 ∧ l.released = [1] := by
  intro props start calls place l
  have hstart : start.Untouched := ⟨rfl, rfl, rfl, by decide⟩
  have hopens : ∀ c ∈ calls, c.OpensAt place := by
    have hname : Property.loggerFile.get? (props "debug" "a.log") = some "a.log" := by decide
    simp [calls, OpensAt, place, hname]
  have hcurrent : l.current = some ⟨2, none, Level.debug⟩ := by decide
  have htidy := (at_most_one_handler (τ := Int) hstart hopens).1
  refine ⟨hstart, hopens, htidy, hcurrent, ?_, by decide⟩
  rw [htidy.attached, hcurrent]
  rfl

end ClusterConnect
