import ClusterConnect.Proofs.Logging.Handlers
import Mathlib.Data.List.Induction

/-!
# Levels asked for and levels shown

The level of the log and the level of its handler are two settings. A call that asks for a level sets
the first one; the handler gets the level of the log when it is attached and keeps it for life. This
file says when the two go together.

* `request?_of_word`: the words for the levels, in any letter case.
* `Fitted`: the handler in use is attached, and there is one if a file is in use. `Fitted.performAll`:
  this is so after any calls.
* `AttachedAt`: how a handler has come into use. `attachedAt_of_current`: every handler in use has the
  level that the log had then.
* `Logging.mutes`: the handler in use stays and leaves out what is asked for.
* `LogCall.level_shown_iff`: after any calls, a level that is asked for is shown unless that is so.
  `LogCall.trace_after_debug_not_shown`: there are such calls.
-/

namespace ClusterConnect

open LogCall

/-! ## Words for levels -/

/-- The words that ask for a level. -/
def levelWords : List (String × Level) := [("DEBUG", Level.debug), ("TRACE", Level.trace)]

/-- A word asks for its level in any letter case. -/
theorem request?_of_word {props : Properties} {word text : String} {level : Level}
    (hword : (word, level) ∈ levelWords) (htext : Property.loggerLevel.get? props = some text)
    (hcase : text.toList.map Char.toUpper = word.toList) :
    request? props = some (.set level) := by
  have hplain : ∀ p ∈ levelWords, p.1.toList.all fun c => (Text.asciiCapitals.lookup c).isNone := by
    decide
  have hupper := Text.uppercase_of_map_toUpper hcase (hplain _ hword)
  unfold request?
  rw [htext, Option.map_some, LevelRequest.ofText, hupper]
  rcases List.mem_cons.mp hword with heq | hword
  · cases heq
    rfl
  · cases List.mem_singleton.mp hword
    rfl

/-! ## The handler in use -/

/-- The handler in use is attached, and there is one if a file is in use. -/
structure Fitted (l : Logging) : Prop where
  attached : ∀ h ∈ l.current, h ∈ l.attached
  inUse : l.target.isSome → l.current.isSome

namespace Fitted

variable {l : Logging}

theorem setLevel (h : Fitted l) (r : LevelRequest) : Fitted (l.setLevel r) := by
  obtain ⟨level, hset⟩ := l.setLevel_eq r
  rw [hset]
  exact ⟨h.attached, h.inUse⟩

theorem release (h : Fitted l) : Fitted l.release := by
  unfold Logging.release
  cases hcurrent : l.current with
  | none => exact h
  | some handler => exact ⟨nofun, nofun⟩

/-- A handler that is being attached is in use. -/
theorem attach (l : Logging) (file : Option Location) (target : Option String) :
    Fitted (l.attach file target) := by
  refine ⟨fun h hh => ?_, fun _ => rfl⟩
  obtain rfl := Option.some.inj hh
  exact List.mem_append_right _ (List.mem_singleton_self _)

theorem perform (h : Fitted l) (c : LogCall) : Fitted (c.perform l) := by
  cases c with
  | reset => exact ⟨h.release.attached, nofun⟩
  | configure props opening =>
    cases hrequest : request? props with
    | none =>
      rw [perform_of_none hrequest]
      exact h
    | some r =>
      by_cases hoff : r = .off
      · subst hoff
        rw [perform_of_off hrequest]
        exact ⟨h.attached, h.inUse⟩
      · rw [perform_configure, hrequest, Logging.configure_of_ne_off hoff]
        cases Property.loggerFile.get? props with
        | none => exact .attach _ none none
        | some name =>
          dsimp only [Option.map_some]
          split
          · exact h.setLevel r
          · cases opening with
            | opened location => exact .attach _ _ _
            | refused => exact .attach _ none none
            | failed f => exact (h.setLevel r).release

theorem performAll (h : Fitted l) (calls : List LogCall) : Fitted (calls.foldl LogCall.perform l) := by
  induction calls generalizing l with
  | nil => exact h
  | cons c calls ih => exact ih (h.perform c)

end Fitted

theorem fitted_of_untouched {start : Logging} (h : start.Untouched) : Fitted start where
  attached := by simp [h.current]
  inUse := by simp [h.target]

/-! ## Where its level comes from -/

/-- A call keeps the handler in use, or leaves none, or attaches one with the level of the log. -/
theorem LogCall.current_perform (l : Logging) (c : LogCall) :
    (c.perform l).current = l.current ∨
      ∀ h ∈ (c.perform l).current, h.level = (c.perform l).level := by
  have hattached : ∀ (l : Logging) file target,
      ∀ h ∈ (l.attach file target).current, h.level = (l.attach file target).level := by
    intro l file target h hh
    obtain rfl := Option.some.inj hh
    rfl
  cases c with
  | reset =>
    have hnone : (reset.perform l).current = none := l.current_release
    exact .inr (by simp [hnone])
  | configure props opening =>
    cases hrequest : request? props with
    | none => exact .inl (by rw [perform_of_none hrequest])
    | some r =>
      by_cases hoff : r = .off
      · subst hoff
        exact .inl (by rw [perform_of_off hrequest])
      · rw [perform_configure, hrequest, Logging.configure_of_ne_off hoff]
        cases Property.loggerFile.get? props with
        | none => exact .inr (hattached _ none none)
        | some name =>
          dsimp only [Option.map_some]
          split
          · obtain ⟨level, hset⟩ := l.setLevel_eq r
            exact .inl (by rw [hset])
          · cases opening with
            | opened location => exact .inr (hattached _ _ _)
            | refused => exact .inr (hattached _ none none)
            | failed f => exact .inr (by simp [Logging.current_release])

/-- A handler has come into use with one of the calls, when the log had a given level, and has stayed
in use since. -/
def AttachedAt (start : Logging) (calls : List LogCall) (h : LogHandler) (level : Level) : Prop :=
  ∃ before c after, calls = before ++ c :: after ∧
    (before.foldl perform start).current ≠ some h ∧
    ((before ++ [c]).foldl perform start).level = level ∧
    ∀ rest, rest <+: after → ((before ++ c :: rest).foldl perform start).current = some h

/-- The handler in use has the level that the log had when the handler was attached. -/
theorem attachedAt_of_current {start : Logging} (hstart : start.current = none)
    {calls : List LogCall} {h : LogHandler} (hcurrent : (calls.foldl perform start).current = some h) :
    AttachedAt start calls h h.level := by
  -- a handler that was in use before the last call is the one that has come into use earlier
  induction calls using List.reverseRecOn with
  | nil => cases hstart.symm.trans hcurrent
  | append_singleton calls c ih =>
    have hlast : (calls ++ [c]).foldl perform start = c.perform (calls.foldl perform start) := by
      rw [List.foldl_append]
      rfl
    by_cases hbefore : (calls.foldl perform start).current = some h
    · obtain ⟨before, c', after, rfl, hnew, hlevel, hstays⟩ := ih hbefore
      refine ⟨before, c', after ++ [c], by simp, hnew, hlevel, fun rest hrest => ?_⟩
      rcases List.prefix_concat_iff.mp hrest with rfl | hrest
      · simpa using hcurrent
      · exact hstays rest hrest
    · refine ⟨calls, c, [], rfl, hbefore, ?_, fun rest hrest => ?_⟩
      · rw [hlast] at hcurrent ⊢
        rcases current_perform (calls.foldl perform start) c with hkept | hfresh
        · exact absurd (hkept.symm.trans hcurrent) hbefore
        · exact (hfresh h hcurrent).symm
      · rw [List.prefix_nil.mp hrest]
        exact hcurrent

/-! ## Levels that are shown -/

/-- A call names the file in use, so that its handler stays, and the handler leaves out records of the
level that is asked for. -/
def Logging.mutes (l : Logging) (file : Option String) (level : Level) : Bool :=
  file.isSome && l.target = file && l.current.any (level < ·.level)

/-- A record is shown by a handler that is attached if neither the log nor the handler leaves it
out. -/
theorem Logging.mem_destinations_iff {l : Logging} {h : LogHandler} {level : Level}
    (hlog : l.level = level) (hlevel : 0 < level) (hattached : h ∈ l.attached) :
    h ∈ l.destinations level ↔ h.level ≤ level := by
  have henabled : l.isEnabled level = true := by
    have hset : l.level ≠ Level.unset := fun hunset => by
      rw [← hlog, hunset] at hlevel
      exact Nat.lt_irrefl 0 hlevel
    rw [Logging.isEnabled, Logging.threshold, if_neg hset, hlog]
    simp [hlevel]
  rw [Logging.destinations, if_pos henabled]
  simp [hattached]

/-- What a configuration that asks for a level does to the log, if it succeeds: the handler in use stays,
or another one is attached. -/
theorem Logging.configure_set_cases {l : Logging} {level : Level} {name? : Option String}
    {opening : LogFile} {l' : Logging}
    (hl' : (l.configure (some (.set level)) (name?.map fun name => (name, opening))).1 = l')
    (hok : (l.configure (some (.set level)) (name?.map fun name => (name, opening))).2.2 = .ok ()) :
    (name?.isSome = true ∧ l.target = name? ∧ l' = { l with level }) ∨
      ¬ (name?.isSome = true ∧ l.target = name?) ∧
        ∃ location target, l' = ({ l with level } : Logging).release.attach location target := by
  subst hl'
  cases name? with
  | none => exact .inr ⟨by simp, none, none, rfl⟩
  | some name =>
    rw [Option.map_some] at hok ⊢
    by_cases htarget : l.target = some name
    · exact .inl ⟨rfl, htarget, congrArg Prod.fst (if_pos htarget)⟩
    · refine .inr ⟨fun h => htarget h.2, ?_⟩
      cases opening with
      | opened location => exact ⟨some location, some name, congrArg Prod.fst (if_neg htarget)⟩
      | refused => exact ⟨none, none, congrArg Prod.fst (if_neg htarget)⟩
      | failed f =>
        have hfailed : (l.configure (some (.set level)) (some (name, .failed f))).2.2 = .error f :=
          congrArg (fun answer : Logging × Bool × Except Failure Unit => answer.2.2) (if_neg htarget)
        cases hfailed.symm.trans hok

theorem Logging.level_release (l : Logging) : l.release.level = l.level := by
  unfold release
  split <;> rfl

/-- **A level that is asked for is shown, unless the handler in use stays and leaves it out.** After any
calls, with any properties and whatever came of the files that were opened, the driver applies
properties that ask for a level by one of its words, in any letter case. If that succeeds,

* the log has that level, and a handler is in use and attached to it;
* a record of that level gets past the log and the handler exactly if the properties do not name the
  file in use, or name it and its handler has no higher level.

A handler in use has the level that the log had when the handler was attached. -/
theorem LogCall.level_shown_iff {τ : Type} {start : Logging} (hstart : start.Untouched)
    (calls : List LogCall) {props : Properties} {word text : String} {level : Level}
    (hword : (word, level) ∈ levelWords) (htext : Property.loggerLevel.get? props = some text)
    (hcase : text.toList.map Char.toUpper = word.toList) :
    let l := calls.foldl perform start
    (∀ env : Environment τ, env.logging = l →
      ((configureLogging props).runFrom env).1 = .ok () →
      let l' := ((configureLogging props).runFrom env).2.logging
      l'.level = level ∧ ∃ h, l'.current = some h ∧ h ∈ l'.attached ∧
        (h ∈ l'.destinations level ↔ l.mutes (Property.loggerFile.get? props) level = false)) ∧
    ∀ h, l.current = some h → AttachedAt start calls h h.level := by
  intro l
  refine ⟨fun env hlogging hok => ?_, fun h => attachedAt_of_current hstart.current⟩
  have hfitted : Fitted l := (fitted_of_untouched hstart).performAll calls
  have hlevel : 0 < level := by
    have hall : ∀ p ∈ levelWords, 0 < p.2 := by decide
    exact hall _ hword
  obtain ⟨opening, houtcome, hcall, -⟩ := runFrom_configureLogging props env
  rw [houtcome, hlogging, request?_of_word hword htext hcase] at hok
  rw [perform_configure, hlogging, request?_of_word hword htext hcase] at hcall
  rcases Logging.configure_set_cases hcall.symm hok with ⟨hsome, htarget, hl'⟩ |
    ⟨hother, location, target, hl'⟩
  · -- the handler in use stays, with the level that it has
    obtain ⟨h, hcurrent⟩ := Option.isSome_iff_exists.mp (hfitted.inUse (htarget ▸ hsome))
    rw [hl']
    refine ⟨rfl, h, hcurrent, hfitted.attached h hcurrent, ?_⟩
    rw [Logging.mem_destinations_iff (l := { l with level }) rfl hlevel
      (hfitted.attached h hcurrent), Logging.mutes, hsome, hcurrent]
    simp [htarget]
  · -- the new handler gets the level of the log, which is the one that is asked for
    have hmutes : l.mutes (Property.loggerFile.get? props) level = false := by
      rw [Logging.mutes, Bool.and_eq_false_iff]
      left
      simpa using hother
    let vacated : Logging := ({ l with level } : Logging).release
    have hset : vacated.level = level := Logging.level_release _
    have hattached : (⟨vacated.next, location, vacated.level⟩ : LogHandler) ∈
        (vacated.attach location target).attached :=
      List.mem_append_right _ (List.mem_singleton_self _)
    rw [hl', hmutes]
    refine ⟨hset, _, rfl, hattached, ?_⟩
    rw [Logging.mem_destinations_iff (l := vacated.attach location target) hset hlevel hattached]
    simp [hset]

/-- The log has been silenced and opened with a level that there is no word for, so that its handler
shows nothing. Another file is named with a level that there is a word for. -/
theorem LogCall.level_shown_after_off :
    let props (level file : String) : Properties :=
      (Properties.empty.insert "loggerLevel" level).insert "loggerFile" file
    let calls : List LogCall :=
      [.configure (props "off" "a.log") .refused, .configure (props "all" "a.log") (.opened ["a.log"])]
    let l := calls.foldl perform {}
    let env : Environment Int := { now := 0, logging := l }
    let l' := ((configureLogging (props "Debug" "b.log")).runFrom env).2.logging
    l.current.map (·.level) = some Level.silent ∧
      ∃ h, l'.current = some h ∧ h ∈ l'.destinations Level.debug := by
  intro props calls l env l'
  have hstart : ({} : Logging).Untouched := ⟨rfl, rfl, rfl, nofun⟩
  obtain ⟨hshown, -⟩ := @level_shown_iff Int {} hstart calls (props "Debug" "b.log") "DEBUG" "Debug"
    Level.debug (by decide) (by decide) (by decide)
  obtain ⟨-, h, hcurrent, -, hiff⟩ := hshown env rfl rfl
  exact ⟨by decide, h, hcurrent, hiff.mpr (by decide)⟩

/-- A file is opened and named once more with a level that shows more. The handler has the level that
the log had before, so the log lets such a record pass and the handler does not. -/
theorem LogCall.trace_after_debug_not_shown :
    let props (level : String) : Properties :=
      (Properties.empty.insert "loggerLevel" level).insert "loggerFile" "a.log"
    let env : Environment Int := { now := 0 }
    let first := ((configureLogging (props "DEBUG")).runFrom env).2
    let second := (configureLogging (props "TRACE")).runFrom first
    second.1 = .ok () ∧ second.2.logging.level = Level.trace ∧
      second.2.logging.current = first.logging.current ∧
      second.2.logging.isEnabled Level.trace = true ∧
      second.2.logging.destinations Level.trace = [] := by
  refine ⟨rfl, ?_⟩
  decide +kernel

end ClusterConnect
