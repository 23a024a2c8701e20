import ClusterConnect.Proofs.CommandLine.Reading
import ClusterConnect.Proofs.CommandLine.Shown
import ClusterConnect.Proofs.Resolution.Secrecy

/-!
# Passwords are not shown

The command that inspects a URL shows properties. It may be given passwords in three places: among
the properties on the command line, in the configuration files and in the query of the URL. Two runs
are compared that differ in the values of passwords and in nothing else.

* `SamePair`, `passwords`: the texts on the command line that may stand for each other.
  `Inspection.Alike`: what two such command lines ask for; `keeps_alike`: the options of the command
  keep it.
* `alike_apart`, `alike_joined`, `alike_behind_letter`, `alike_url`: the ways to give a password.
* `lines_eq`: the lines that show properties do not depend on the password.
* `ShownAlike`: runs that look the same from outside; `shownAlike_run`: runs of the command do, if
  they do not connect.
* `password_does_not_show`: the same for the whole command, from its arguments on.

The limit: arguments that cannot be read are answered by a text of the reader of arguments, which is
not part of the theory. Whether that text repeats an argument is left open.
-/

namespace ClusterConnect

variable {τ : Type}

namespace Inspection

open CommandLine

/-! ## What is asked for -/

/-- Two texts that both give a password. -/
def SamePair (s s' : String) : Prop :=
  ∃ value value', s = "password=" ++ value ∧ s' = "password=" ++ value'

/-- On the command line, properties that give a password may stand for each other, and URLs as
`SameText` has it. -/
def passwords (SameText : String → String → Prop) : Leeway Inspection where
  value := fun f s s' => f = addSetting ∧ SamePair s s'
  positional := SameText

/-- Two properties as written that are the same, or that both give a password. -/
def SameSetting (s s' : Option String) : Prop :=
  s = s' ∨ ∃ value value', IsPair s "password" value ∧ IsPair s' "password" value'

/-- Two command lines ask for the same, but for passwords, and for URLs as `SameText` has it. -/
structure Alike (SameText : String → String → Prop) (i i' : Inspection) : Prop where
  url : SameText i.url i'.url
  settings : List.Forall₂ SameSetting i.settings i'.settings
  strict : i.strict = i'.strict
  connect : i.connect = i'.connect
  query : i.query = i'.query

section

variable {SameText : String → String → Prop} {i i' : Inspection} {s s' : Option String}

theorem SamePair.sameSetting {s s' : String} (h : SamePair s s') :
    SameSetting (some s) (some s') := by
  obtain ⟨value, value', rfl, rfl⟩ := h
  have hpair : ∀ value, IsPair (some ("password=" ++ value)) "password" value := fun value =>
    ⟨rfl, by decide, by decide⟩
  exact .inr ⟨value, value', hpair value, hpair value'⟩

theorem Alike.addSetting (h : i.Alike SameText i') (hs : SameSetting s s') :
    Option.Rel (Alike SameText) (addSetting s i) (Inspection.addSetting s' i') :=
  .some { h with settings := List.rel_append h.settings (.cons hs .nil) }

/-- The options of the command cannot tell passwords apart. -/
theorem keeps_alike (hrefl : ∀ text, SameText text text) :
    grammar.Keeps (passwords SameText) (Alike SameText) where
  options := by
    intro o ho
    simp only [grammar, List.mem_cons, List.not_mem_nil, or_false] at ho
    have hset : (Effect.value Inspection.addSetting).Keeps (Alike SameText) :=
      fun v x y h => h.addSetting (.inl rfl)
    rcases ho with rfl | rfl | rfl | rfl | rfl | rfl | rfl
    · trivial
    · trivial
    · exact hset
    · exact hset
    · exact fun x y h => { h with strict := rfl }
    · exact fun x y h => { h with connect := rfl }
    · exact fun v x y h => .some { h with query := rfl }
  values := by
    rintro f s s' ⟨rfl, hpair⟩
    have hnot : ∀ value, "password=" ++ value ≠ separatorText := by
      intro value hsame
      have hletters := congrArg String.toList hsame
      rw [String.toList_append] at hletters
      exact absurd (List.cons.inj hletters).1 (by decide)
    have hsetting := hpair.sameSetting
    obtain ⟨value, value', rfl, rfl⟩ := hpair
    exact ⟨hnot value, hnot value', fun x y h => h.addSetting hsetting⟩
  positionals := by
    intro f hf s s' hs x y h
    obtain rfl := List.mem_singleton.mp hf
    rcases hs with rfl | hsame
    · exact { h with url := hrefl s }
    · exact { h with url := hsame }

/-- Command lines that differ in passwords end alike, or ask for the same but for passwords. -/
theorem read_paired (hrefl : ∀ text, SameText text text) {arguments arguments' : List String}
    (h : AlikeArguments grammar (passwords SameText) false arguments arguments') :
    Paired Eq (Alike SameText) (read arguments) (read arguments') :=
  Grammar.read_paired (keeps_alike hrefl) h ⟨hrefl _, .nil, rfl, rfl, rfl⟩

/-- Properties on the command line are read to entries that are the same but for passwords, or the
same one is refused. -/
theorem parseSettings_paired {settings settings' : List (Option String)}
    (h : List.Forall₂ SameSetting settings settings') :
    Paired Eq (List.Forall₂ SameEntry) (parseSettings settings) (parseSettings settings') := by
  induction h with
  | nil => exact .ok .nil
  | @cons s s' rest rest' hs hrest ih =>
    rcases hs with rfl | ⟨value, value', hpair, hpair'⟩
    · by_cases hwell : IsWellFormed s
      · obtain ⟨key, value, hpair⟩ := hwell
        rw [parseSettings_cons_of_isPair (e := (key, value)) hpair,
          parseSettings_cons_of_isPair (e := (key, value)) hpair]
        exact ih.map fun es es' hes => .cons (.refl _) hes
      · rw [parseSettings_cons_of_not hwell, parseSettings_cons_of_not hwell]
        exact .error rfl
    · rw [parseSettings_cons_of_isPair (e := ("password", value)) hpair,
        parseSettings_cons_of_isPair (e := ("password", value')) hpair']
      exact ih.map fun es es' hes => .cons ⟨rfl, .inl rfl⟩ hes

end

/-! ### Ways to give a password -/

section

variable {SameText : String → String → Prop} {taken : Bool} {o s s' : String}
variable {as as' : List String}

/-- No option has an equals sign in its name. -/
theorem names_of_grammar : ∀ o ∈ grammar.options, '=' ∉ o.1.toList := by decide

theorem toList_pair (value : String) :
    ("password=" ++ value).toList = "password".toList ++ '=' :: value.toList :=
  String.toList_append

theorem SamePair.allows (h : SamePair s s') :
    (passwords SameText).Allows [.value Inspection.addSetting] s s' := by
  refine .inr fun f hf => ?_
  obtain ⟨⟩ := List.mem_singleton.mp hf
  exact ⟨rfl, h⟩

/-- A password in an argument of its own. -/
theorem alike_apart (ho : o = "-s" ∨ o = "--set") (hs : SamePair s s')
    (h : AlikeArguments grammar (passwords SameText) false as as') :
    AlikeArguments grammar (passwords SameText) taken (o :: s :: as) (o :: s' :: as') := by
  have hasks : AsksFor grammar o ⟨[.value Inspection.addSetting], none⟩ := by
    rcases ho with rfl | rfl
    · exact asks_apart "-s" rfl (by decide) rfl
    · exact asks_apart "--set" rfl (by decide) rfl
  have hplays : ∀ value, Plays grammar ("password=" ++ value) (.plain ("password=" ++ value)) := by
    intro value
    refine plays_plain grammar ?_
    rw [toList_pair]
    exact fun hletter => absurd (Option.some.inj hletter) (by decide)
  have hallows : (passwords SameText).Allows _ s s' := hs.allows
  obtain ⟨value, value', rfl, rfl⟩ := hs
  exact .valued hasks rfl (hplays value) (hplays value') hallows h

/-- A password behind the option and an equals sign. -/
theorem alike_joined (ho : o = "-s" ∨ o = "--set") (hs : SamePair s s')
    (h : AlikeArguments grammar (passwords SameText) false as as') :
    AlikeArguments grammar (passwords SameText) taken ((o ++ "=" ++ s) :: as)
      ((o ++ "=" ++ s') :: as') := by
  have hasks : ∀ text, AsksFor grammar (o ++ "=" ++ text)
      ⟨[.value Inspection.addSetting], some text⟩ := by
    intro text
    rcases ho with rfl | rfl
    · exact asks_joined "-s" rfl names_of_grammar rfl text
    · exact asks_joined "--set" rfl names_of_grammar rfl text
  exact .attached (hasks s) (hasks s') hs.allows h

/-- What stands right behind the letter of the option is its value, equals sign included. -/
theorem asks_behind_letter (value : String) :
    AsksFor grammar ("-s" ++ ("password=" ++ value))
      ⟨[.value Inspection.addSetting], some ("password=" ++ value)⟩ := by
  have hparts : ("-s" ++ ("password=" ++ value)).toList =
      "-spassword".toList ++ '=' :: value.toList := by
    rw [String.toList_append, toList_pair]
    rfl
  have hsign : '=' ∈ ("-s" ++ ("password=" ++ value)).toList := by
    rw [hparts]
    exact List.mem_append_right _ List.mem_cons_self
  have hcut : Text.cut '=' ("-spassword".toList ++ '=' :: value.toList) =
      ("-spassword".toList, some value.toList) := Text.cut_append (by decide)
  refine ⟨.value Inspection.addSetting, .toLetter ("password=" ++ value).toList, ⟨?_, ?_⟩, ?_⟩
  · intro hsame
    exact absurd (hsame ▸ hsign) (by decide)
  · unfold classify
    rw [hparts, lookup_eq_none names_of_grammar hsign, hcut]
    show Except.ok (classifyShort grammar _) = _
    unfold classifyShort
    rw [hparts, toList_pair]
    rfl
  · exact congrArg _ (congrArg _ (congrArg some String.ofList_toList))

theorem alike_behind_letter (hs : SamePair s s')
    (h : AlikeArguments grammar (passwords SameText) false as as') :
    AlikeArguments grammar (passwords SameText) taken (("-s" ++ s) :: as)
      (("-s" ++ s') :: as') := by
  have hallows : (passwords SameText).Allows _ s s' := hs.allows
  obtain ⟨value, value', rfl, rfl⟩ := hs
  exact .attached (asks_behind_letter value) (asks_behind_letter value') hallows h

/-- A URL, which does not start with a hyphen. -/
theorem alike_url (hs : SameText s s') (hfirst : s.toList.head? ≠ some '-')
    (hfirst' : s'.toList.head? ≠ some '-')
    (h : AlikeArguments grammar (passwords SameText) false as as') :
    AlikeArguments grammar (passwords SameText) false (s :: as) (s' :: as') :=
  .placed (plays_plain grammar hfirst) (plays_plain grammar hfirst') (.inr hs) h

end

/-! ## What is shown -/

theorem line_eq_of_sameEntry {e e' : String × String} (h : SameEntry e e') : line e = line e' := by
  obtain ⟨hname, hvalue⟩ := h
  rw [line_eq, line_eq, ← hname]
  by_cases hpassword : e.1 = "password"
  · rw [if_pos hpassword, if_pos hpassword]
  · rw [if_neg hpassword, if_neg hpassword, hvalue.resolve_left hpassword]

/-- Entries in the order of their names are given by these names. -/
theorem map_sorted {α : Type} (props : Properties) (f : String × String → α) :
    props.sorted.map f =
      (props.sorted.map Prod.fst).map fun k => f (k, (props.get? k).getD "") := by
  rw [List.map_map]
  refine List.map_congr_left fun e he => ?_
  show f e = f (e.1, (props.get? e.1).getD "")
  rw [(mem_sorted_iff props).mp he]
  rfl

/-- Mappings that are the same but for the password are shown by the same lines. -/
theorem lines_eq {p q : Properties} (h : SameButPassword p q) :
    (p.sorted.map fun e => line e ++ "\n") = q.sorted.map fun e => line e ++ "\n" := by
  -- the names are the same, and there is only one order for them
  have hnames : p.sorted.map Prod.fst = q.sorted.map Prod.fst := by
    refine List.Perm.eq_of_pairwise (fun k k' _ _ hlt hgt => absurd hgt (lt_asymm hlt))
      (pairwise_sorted p) (pairwise_sorted q) ?_
    refine (List.perm_ext_iff_of_nodup p.nodup_sorted q.nodup_sorted).mpr fun k => ?_
    rw [(p.sorted_perm.map Prod.fst).mem_iff, (q.sorted_perm.map Prod.fst).mem_iff]
    show k ∈ p.names ↔ k ∈ q.names
    rw [← Properties.contains_iff_mem_names, ← Properties.contains_iff_mem_names, h.contains k]
  rw [map_sorted p, map_sorted q, hnames]
  refine List.map_congr_left fun k _ => ?_
  have hentry : SameEntry (k, (p.get? k).getD "") (k, (q.get? k).getD "") := by
    by_cases hk : k = Property.password.name
    · exact ⟨rfl, .inl hk⟩
    · exact ⟨rfl, .inr (congrArg (·.getD "") ((h k).eq hk))⟩
  rw [line_eq_of_sameEntry hentry]

/-! ## Runs -/

/-- Two ends that look the same from outside, except perhaps for the error output. That is the same,
too, under a condition. -/
structure ShownAlike (condition : Prop)
    (final final' : Except Failure Nat × Environment τ) : Prop where
  result : final.1 = final'.1
  output : final.2.output = final'.2.output
  errorOutput : condition → final.2.errorOutput = final'.2.errorOutput

section

variable {condition : Prop} {env env' : Environment τ}

theorem ShownAlike.of_withFiles (r : Except Failure Nat) (env : Environment τ) (files : FileTree) :
    ShownAlike condition (r, env) (r, env.withFiles files) := ⟨rfl, rfl, fun _ => rfl⟩

/-- Reports of failures look the same if these are both the driver's, or the same. -/
theorem shownAlike_report {f f' : Failure}
    (hfailures : f = f' ∨ ∃ e e', f = .driver e ∧ f' = .driver e')
    (houtput : env.output = env'.output)
    (hcondition : condition → f = f' ∧ env.errorOutput = env'.errorOutput)
    (describe : DriverError → String) :
    ShownAlike condition ((report describe f).runFrom env) ((report describe f').runFrom env') := by
  have hdriver : ∀ e e' : DriverError,
      (condition → e = e' ∧ env.errorOutput = env'.errorOutput) →
      ShownAlike condition ((report describe (.driver e)).runFrom env)
        ((report describe (.driver e')).runFrom env') := by
    intro e e' hsame
    refine ⟨rfl, houtput, fun hc => ?_⟩
    obtain ⟨rfl, herrors⟩ := hsame hc
    show env.errorOutput ++ describe e ++ "\n" = env'.errorOutput ++ describe e ++ "\n"
    rw [herrors]
  rcases hfailures with rfl | ⟨e, e', rfl, rfl⟩
  · cases f with
    | driver e => exact hdriver e e fun hc => ⟨rfl, (hcondition hc).2⟩
    | foreign e => exact ⟨rfl, houtput, fun hc => (hcondition hc).2⟩
  · refine hdriver e e' fun hc => ?_
    obtain ⟨hsame, herrors⟩ := hcondition hc
    exact ⟨Failure.driver.inj hsame, herrors⟩

end

section

variable [Timeline τ] {i i' : Inspection} {d : Driver} {env : Environment τ} {files' : FileTree}

omit [Timeline τ] in
/-- A fault of a URL and the same fault of another one are reported alike, whatever files there are
for the log to write to. -/
theorem shownAlike_fault {url url' : String} {fault : UrlFault} (hfault : fault.withUrl url = fault)
    (env : Environment τ) (files' : FileTree) (describe : DriverError → String) :
    ShownAlike (url = url')
      ((report describe fault.failure).runFrom (env.warned (.url fault)))
      ((report describe (fault.withUrl url').failure).runFrom
        ((env.withFiles files').warned (.url (fault.withUrl url')))) := by
  refine shownAlike_report ?_ ?_ ?_ describe
  · exact (fault.failure_withUrl url').symm.imp Eq.symm id
  · rw [Environment.output_warned, Environment.output_warned]
    rfl
  · rintro rfl
    rw [hfault]
    obtain ⟨files'', hwarned⟩ := env.warned_withFiles files' (.url fault)
    rw [hwarned]
    exact ⟨rfl, rfl⟩

/-- Without a connection, the lines are all there is. -/
theorem runFrom_display (h : i.connect = false) (d : Driver) (registryLimit : τ)
    (overrides : Overrides) (props : Properties) (env : Environment τ) :
    (i.display d registryLimit overrides props).runFrom env =
      (.ok 0, { env with
        output := env.output ++ String.join (props.sorted.map fun e => line e ++ "\n") }) := by
  unfold display
  rw [Act.runFrom_bind_of_ok (runFrom_sayAll props.sorted env), if_neg (by simp [h])]
  rfl

/-- Runs that do not connect look the same if they are asked for the same but for passwords, over
configuration files that are the same but for passwords. -/
theorem shownAlike_run (hi : i.Alike SameUrl i') (hconnect : i.connect = false)
    (hfiles : ∀ path ∈ d.configFiles, SameFile env.files files' path) (registryLimit : τ) :
    ShownAlike (i.url = i'.url) ((i.run d registryLimit).runFrom env)
      ((i'.run d registryLimit).runFrom (env.withFiles files')) := by
  have hbegun : i'.begun (env.withFiles files') = (i.begun env).withFiles files' := by
    unfold begun Environment.withFiles
    rw [hi.strict]
  rcases (parseSettings_paired hi.settings).cases with ⟨s, _, hes, hes', rfl⟩ |
    ⟨es, es', hes, hes', hsame⟩
  · cases s with
    | none =>
      rw [run_of_separator hes, run_of_separator hes', hbegun]
      exact .of_withFiles _ _ _
    | some s =>
      rw [run_of_ill_formed hes, run_of_ill_formed hes', hbegun]
      exact .of_withFiles _ _ _
  · have hgiven : SameButPassword (.ofList es) (.ofList es') :=
      (SameButPassword.refl .empty).insertAll hsame
    have hloading : Paired Eq SameButPassword
        (Configuration.defaults env.files env.login d.configFiles)
        (Configuration.defaults (env.withFiles files').files (env.withFiles files').login
          d.configFiles) := defaults_paired hfiles env.login
    rcases hloading.cases with
      ⟨f, _, hloaded, hloaded', rfl⟩ | ⟨p, p', hloaded, hloaded', hdefaults⟩
    · rw [runFrom_run_of_no_defaults hes hloaded, runFrom_run_of_no_defaults hes' hloaded', hbegun]
      refine shownAlike_report (.inl rfl) ?_ ?_ _
      · rfl
      · exact fun _ => ⟨rfl, rfl⟩
    · have hresolved := resolve_paired hi.url hgiven hdefaults (i.strict || env.strict)
      rcases hresolved.cases with ⟨_, _, hresolve, hresolve', fault, rfl, rfl, hfault⟩ |
        ⟨answer, answer', hresolve, hresolve', hanswer⟩
      · rw [runFrom_run_of_defaults hes hloaded, runFrom_run_of_defaults hes' hloaded', hbegun,
          Driver.runFrom_resolveLogged_of_fault (i.begun env) hresolve,
          Driver.runFrom_resolveLogged_of_fault ((i.begun env).withFiles files') hresolve']
        exact shownAlike_fault hfault (i.begun env) files' _
      · rw [hi.strict] at hresolve'
        rw [run_of_answer hes hloaded hresolve, run_of_answer hes' hloaded' hresolve', hbegun]
        cases hanswer with
        | none =>
          refine ⟨rfl, rfl, fun hurl => ?_⟩
          show _ ++ ("not a pgaws URL: " ++ i.url) ++ _ = _ ++ ("not a pgaws URL: " ++ i'.url) ++ _
          rw [hurl]
          rfl
        | some hprops =>
          dsimp only
          rw [runFrom_display hconnect, runFrom_display (hi.connect ▸ hconnect), lines_eq hprops]
          exact .of_withFiles _ _ _

end

/-! ## The command -/

/-- **The password does not show.** Two runs of the command that do not connect are given the same,
except for the values of passwords: among the properties on the command line, in the query of the
URL, and in the configuration files. A URL is an argument that is read in its place. If the
arguments cannot be read, that is so in both runs, and in the same way; what the reader of arguments
prints about it is not modelled, so nothing is said about the error output of a misused command.
Otherwise the runs have the same result and the same output. They have the same error output, too, if
the URL is the same. -/
theorem password_does_not_show [Timeline τ] (d : Driver) (registryLimit : τ)
    (env : Environment τ) {files' : FileTree} {arguments arguments' : List String}
    (harguments : AlikeArguments grammar (passwords SameUrl) false arguments arguments')
    (hfiles : ∀ path ∈ d.configFiles, SameFile env.files files' path)
    (hconnect : ∀ i, read arguments = .ok i → i.connect = false) :
    Paired Eq (fun i i' =>
        let final := (i.run d registryLimit).runFrom env
        let final' := (i'.run d registryLimit).runFrom (env.withFiles files')
        final.1 = final'.1 ∧ final.2.output = final'.2.output ∧
          (AlikeArguments grammar (passwords Eq) false arguments arguments' →
            final.2.errorOutput = final'.2.errorOutput))
      (read arguments) (read arguments') := by
  rcases (read_paired SameUrl.refl harguments).cases with ⟨e, e', hends, hends', hsame⟩ |
    ⟨i, i', hread, hread', halike⟩
  · rw [hends, hends']
    exact .error hsame
  · rw [hread, hread']
    refine .ok ?_
    have hshown := shownAlike_run halike (hconnect i hread) hfiles registryLimit
    refine ⟨hshown.result, hshown.output, fun hurl => hshown.errorOutput ?_⟩
    -- the arguments are read once more, as lists in which not even the URLs differ
    have hagain := read_paired (fun _ => rfl) hurl
    rw [hread, hread'] at hagain
    cases hagain with
    | ok hi => exact hi.url

/-- Passwords in all places, with a URL of which the query has another one, and then with a URL that
is broken. -/
theorem password_does_not_show_anywhere :
    let arguments (url : String) := ["-s", "password=one", "--set=password=two", "-spassword=", url]
    let arguments' (url : String) := ["-s", "password=1", "--set=password=", "-spassword=2", url]
    let url := "postgresql://db/app?password=three&user=ann"
    let url' := "postgresql://db/app?password=3&user=ann"
    let broken := "postgresql://db"
    let files (password : String) : FileTree :=
      { entries := [(["driverconfig.toml"], .file (Text.Utf8.encode
          ("[properties]\npassword = '" ++ password ++ "'\n").toList))] }
    let env : Environment Int := { now := 0, files := files "four" }
    let env' : Environment Int := env.withFiles (files "4")
    let d : Driver := { configFiles := [⟨"", ["driverconfig.toml"]⟩] }
    (∃ i i', read (arguments url) = .ok i ∧ read (arguments' url') = .ok i' ∧
      ((i.run d 0).runFrom env).1 = ((i'.run d 0).runFrom env').1 ∧
      ((i.run d 0).runFrom env).2.output = ((i'.run d 0).runFrom env').2.output) ∧
    ∃ i i', read (arguments broken) = .ok i ∧ read (arguments' broken) = .ok i' ∧
      ((i.run d 0).runFrom env).2.errorOutput = ((i'.run d 0).runFrom env').2.errorOutput := by
  intro arguments arguments' url url' broken files env env' d
  have hpair : ∀ value value' : String, SamePair ("password=" ++ value) ("password=" ++ value') :=
    fun value value' => ⟨value, value', rfl, rfl⟩
  have harguments : ∀ (SameText : String → String → Prop) (text text' : String),
      SameText text text' → text.toList.head? ≠ some '-' → text'.toList.head? ≠ some '-' →
      AlikeArguments grammar (passwords SameText) false (arguments text) (arguments' text') := by
    intro SameText text text' hsame hfirst hfirst'
    apply alike_apart (.inl rfl) (hpair "one" "1")
    apply alike_joined (o := "--set") (.inr rfl) (hpair "two" "")
    apply alike_behind_letter (hpair "" "2")
    exact alike_url hsame hfirst hfirst' .nil
  have hurl : SameUrl url url' := by
    have hquery : (queryPart url).splitOn '&' =
        ["password=".toList ++ "three".toList, "user=ann".toList] := by decide +kernel
    have hquery' : (queryPart url').splitOn '&' =
        ["password=".toList ++ "3".toList, "user=ann".toList] := by decide +kernel
    refine ⟨by decide +kernel, ?_⟩
    rw [hquery, hquery']
    exact .cons (.inr ⟨_, _, rfl, rfl⟩) (.cons (.inl rfl) .nil)
  have hfiles : ∀ path ∈ d.configFiles, SameFile (files "four") (files "4") path := by
    have hread : fileProperties? (files "four") ⟨"", ["driverconfig.toml"]⟩ =
        some (.ofList [("password", "four")]) := by decide +kernel
    have hread' : fileProperties? (files "4") ⟨"", ["driverconfig.toml"]⟩ =
        some (.ofList [("password", "4")]) := by decide +kernel
    intro path hpath
    obtain rfl := List.mem_singleton.mp hpath
    have hsame : SameButPassword (.ofList [("password", "four")]) (.ofList [("password", "4")]) :=
      (SameButPassword.refl .empty).insertAll (.cons ⟨rfl, .inl rfl⟩ .nil)
    exact .of_properties hread hread' hsame
  let given := [some "password=one", some "password=two", some "password="]
  let given' := [some "password=1", some "password=", some "password=2"]
  constructor
  · have hread : read (arguments url) = .ok { url, settings := given } := by decide +kernel
    have hread' : read (arguments' url') = .ok { url := url', settings := given' } := by
      decide +kernel
    have hsame := harguments SameUrl url url' hurl (by decide) (by decide)
    have hshown := password_does_not_show d 0 env hsame hfiles fun i hi =>
      Except.ok.inj (hread.symm.trans hi) ▸ rfl
    rw [hread, hread'] at hshown
    cases hshown with
    | ok h => exact ⟨_, _, hread, hread', h.1, h.2.1⟩
  · have hread : read (arguments broken) = .ok { url := broken, settings := given } := by
      decide +kernel
    have hread' : read (arguments' broken) = .ok { url := broken, settings := given' } := by
      decide +kernel
    have hsame : ∀ SameText : String → String → Prop, SameText broken broken →
        AlikeArguments grammar (passwords SameText) false (arguments broken) (arguments' broken) :=
      fun SameText hbroken => harguments SameText broken broken hbroken (by decide) (by decide)
    have hshown := password_does_not_show d 0 env (hsame SameUrl (.refl broken)) hfiles
      fun i hi => Except.ok.inj (hread.symm.trans hi) ▸ rfl
    rw [hread, hread'] at hshown
    cases hshown with
    | ok h => exact ⟨_, _, hread, hread', h.2.2 (hsame Eq rfl)⟩

end Inspection

end ClusterConnect
