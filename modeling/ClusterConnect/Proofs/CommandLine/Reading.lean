import ClusterConnect.CommandLine.Arguments
import ClusterConnect.Failure
import Mathlib.Data.List.Forall2

/-!
# Arguments that are read alike

Two lists of arguments may differ in texts that have no part in how the lists are read: in the
values of options, and in positional arguments. If the effects of the grammar do not tell such texts
apart, neither does the reading, whatever else is on the two lists.

* `Leeway`: which texts may stand for each other. `Grammar.Keeps`: the effects of a grammar do not
  tell them apart, as far as a relation between two states goes.
* `AsksFor`: what an argument asks for, if it is an option. `asks_apart`, `asks_joined`: options with
  their values in the next argument and in the same one.
* `AlikeArguments`: lists of arguments that differ in such texts only. `AlikeWords`: the same for
  words, with every option beside the value that it takes.
* `classifyAll_paired`, `readWords_paired`: the two stages of the reading.
* `Grammar.read_paired`: the reading comes to the same ending, or to two states in the relation.
-/

namespace ClusterConnect.CommandLine

variable {σ : Type}

/-- Which texts may stand for each other in two lists of arguments. -/
structure Leeway (σ : Type) where
  /-- Two values of an option, which is given by what it does. -/
  value : (Option String → σ → Option σ) → String → String → Prop
  /-- Two positional arguments. -/
  positional : String → String → Prop

/-- Two texts are the same, or may stand for each other as a value of each of some effects. -/
def Leeway.Allows (L : Leeway σ) (effects : List (Effect σ)) (s s' : String) : Prop :=
  s = s' ∨ ∀ f, .value f ∈ effects → L.value f s s'

/-- Two texts are the same, or may stand for each other as positional arguments. -/
def Leeway.Places (L : Leeway σ) (s s' : String) : Prop := s = s' ∨ L.positional s s'

/-- An effect keeps `S` between two states. -/
def Effect.Keeps (S : σ → σ → Prop) : Effect σ → Prop
  | .help => True
  | .switch f => ∀ x y, S x y → S (f x) (f y)
  | .value f => ∀ v x y, S x y → Option.Rel S (f v x) (f v y)

/-- Whatever a grammar does keeps `S` between two states, with texts that may stand for each other
as with the same text. -/
structure Grammar.Keeps (g : Grammar σ) (L : Leeway σ) (S : σ → σ → Prop) : Prop where
  options : ∀ o ∈ g.options, o.2.Keeps S
  values : ∀ f s s', L.value f s s' → s ≠ separatorText ∧ s' ≠ separatorText ∧
    ∀ x y, S x y → Option.Rel S (f (some s) x) (f (some s') y)
  positionals : ∀ f ∈ g.positionals, ∀ s s', L.Places s s' → ∀ x y, S x y → S (f s x) (f s' y)

/-! ## Lists of arguments -/

/-- The role that an argument plays in front of the separator. -/
def Plays (g : Grammar σ) (s : String) (w : Word σ) : Prop :=
  s ≠ separatorText ∧ classify g s = .ok w

/-- What an argument in front of the separator asks for, if it is an option. -/
def AsksFor (g : Grammar σ) (s : String) (r : Request σ) : Prop :=
  ∃ effect a, Plays g s (.option effect a) ∧ request g effect a = .ok r

/-- What does not start with a hyphen is no option. -/
theorem plays_plain (g : Grammar σ) {s : String} (h : s.toList.head? ≠ some '-') :
    Plays g s (.plain s) := by
  constructor
  · rintro rfl
    exact h rfl
  · unfold classify
    split
    · next hs => exact absurd (hs ▸ rfl) h
    · rfl

theorem mem_of_lookup {g : Grammar σ} {name : String} {effect : Effect σ}
    (h : g.options.lookup name = some effect) : (name, effect) ∈ g.options := by
  obtain ⟨front, back, hoptions, -⟩ := List.lookup_eq_some_iff.mp h
  rw [hoptions]
  exact List.mem_append_right front List.mem_cons_self

/-- What holds an equals sign is the name of no option, if no name holds one. -/
theorem lookup_eq_none {g : Grammar σ} (hnames : ∀ o ∈ g.options, '=' ∉ o.1.toList) {s : String}
    (h : '=' ∈ s.toList) : g.options.lookup s = none := by
  rw [List.lookup_eq_none_iff]
  intro o ho
  rw [bne_iff_ne]
  intro hsame
  exact hnames o ho (hsame ▸ h)

/-- An option whose value is in the next argument. -/
theorem asks_apart {g : Grammar σ} (name : String) {c : Char} {letters : List Char}
    {f : Option String → σ → Option σ} (hname : name.toList = '-' :: c :: letters)
    (hnot : name ≠ separatorText) (hlookup : g.options.lookup name = some (.value f)) :
    AsksFor g name ⟨[.value f], none⟩ := by
  refine ⟨.value f, .none, ⟨hnot, ?_⟩, rfl⟩
  unfold classify
  rw [hname]
  dsimp only
  rw [hlookup]
  rfl

/-- An option whose value is in the same argument, behind an equals sign. -/
theorem asks_joined {g : Grammar σ} (name : String) {c : Char} {letters : List Char}
    {f : Option String → σ → Option σ} (hname : name.toList = '-' :: c :: letters)
    (hnames : ∀ o ∈ g.options, '=' ∉ o.1.toList)
    (hlookup : g.options.lookup name = some (.value f)) (text : String) :
    AsksFor g (name ++ "=" ++ text) ⟨[.value f], some text⟩ := by
  have hparts : (name ++ "=" ++ text).toList = name.toList ++ '=' :: text.toList := by
    rw [String.toList_append, String.toList_append, List.append_assoc]
    rfl
  have hsign : '=' ∈ (name ++ "=" ++ text).toList := by
    rw [hparts]
    exact List.mem_append_right _ List.mem_cons_self
  have hcut : Text.cut '=' ('-' :: c :: (letters ++ '=' :: text.toList)) =
      (name.toList, some text.toList) := by
    have hfirst : Text.cut '=' (name.toList ++ '=' :: text.toList) =
        (name.toList, some text.toList) := Text.cut_append (hnames _ (mem_of_lookup hlookup))
    rwa [hname] at hfirst ⊢
  refine ⟨.value f, if c = '-' then .toName text.toList else .toLetter text.toList, ⟨?_, ?_⟩, ?_⟩
  · intro hsame
    exact absurd (hsame ▸ hsign) (by decide)
  · unfold classify
    rw [hparts, hname, List.cons_append, List.cons_append]
    dsimp only
    rw [lookup_eq_none hnames hsign, hcut]
    dsimp only
    rw [String.ofList_toList, hlookup]
    rfl
  · split <;> exact congrArg _ (congrArg _ (congrArg some String.ofList_toList))

/-- Whether a word is an option that takes its value from the next argument. -/
def takesNext (g : Grammar σ) : Word σ → Bool
  | .option effect a =>
    match request g effect a with
    | .ok r => r.wantsNext
    | .error _ => false
  | _ => false

/-- Whether an argument is an option that takes its value from the next one. -/
def argumentTakesNext (g : Grammar σ) (s : String) : Bool :=
  match classify g s with
  | .ok w => takesNext g w
  | .error _ => false

/-- Lists of arguments that are the same, one by one, but for texts that may stand for each other:
the value of an option, in the next argument or in the same one, and a positional argument. `taken`
says whether an option in front takes the first argument as its value, if it can. -/
inductive AlikeArguments (g : Grammar σ) (L : Leeway σ) :
    Bool → List String → List String → Prop where
  | nil {taken : Bool} : AlikeArguments g L taken [] []
  | same {taken : Bool} {s : String} {as as' : List String} (hs : s ≠ separatorText)
      (h : AlikeArguments g L (argumentTakesNext g s) as as') :
      AlikeArguments g L taken (s :: as) (s :: as')
  | valued {taken : Bool} {r : Request σ} {o s s' : String} {as as' : List String}
      (ho : AsksFor g o r) (hnext : r.wantsNext = true)
      (hs : Plays g s (.plain s)) (hs' : Plays g s' (.plain s'))
      (hvalue : L.Allows r.effects s s') (h : AlikeArguments g L false as as') :
      AlikeArguments g L taken (o :: s :: as) (o :: s' :: as')
  | attached {taken : Bool} {effects : List (Effect σ)} {o o' s s' : String} {as as' : List String}
      (ho : AsksFor g o ⟨effects, some s⟩) (ho' : AsksFor g o' ⟨effects, some s'⟩)
      (hvalue : L.Allows effects s s') (h : AlikeArguments g L false as as') :
      AlikeArguments g L taken (o :: as) (o' :: as')
  | placed {s s' : String} {as as' : List String} (hs : Plays g s (.plain s))
      (hs' : Plays g s' (.plain s')) (hplace : L.Places s s')
      (h : AlikeArguments g L false as as') : AlikeArguments g L false (s :: as) (s' :: as')
  | separated {taken : Bool} {as as' : List String} (h : List.Forall₂ L.Places as as') :
      AlikeArguments g L taken (separatorText :: as) (separatorText :: as')

/-! ## Words -/

/-- What a word does keeps `S` between two states. -/
def Word.Keeps (S : σ → σ → Prop) : Word σ → Prop
  | .option effect _ => effect.Keeps S
  | _ => True

/-- A list of words begins with an option's value, if one is wanted. -/
def BeginsPlain (ws : List (Word σ)) : Prop := ∃ s rest, ws = .plain s :: rest

/-- Lists of words that are the same, one by one, but for texts that may stand for each other. An
option and the value that it takes from the next word go together. If there is nothing to take, it
makes no difference what follows. -/
inductive AlikeWords (g : Grammar σ) (L : Leeway σ) (S : σ → σ → Prop) :
    List (Word σ) → List (Word σ) → Prop where
  | nil : AlikeWords g L S [] []
  | same {w : Word σ} {ws ws' : List (Word σ)} (hw : w.Keeps S) (halone : takesNext g w = false)
      (h : AlikeWords g L S ws ws') : AlikeWords g L S (w :: ws) (w :: ws')
  | lacking {w : Word σ} {ws ws' : List (Word σ)} (hnext : takesNext g w = true)
      (h : ¬ BeginsPlain ws) (h' : ¬ BeginsPlain ws') : AlikeWords g L S (w :: ws) (w :: ws')
  | valued {effect : Effect σ} {a : Attached} {r : Request σ} {s s' : String}
      {ws ws' : List (Word σ)} (hw : effect.Keeps S) (hrequest : request g effect a = .ok r)
      (hnext : r.wantsNext = true) (hvalue : L.Allows r.effects s s')
      (h : AlikeWords g L S ws ws') :
      AlikeWords g L S (.option effect a :: .plain s :: ws) (.option effect a :: .plain s' :: ws')
  | attached {effect effect' : Effect σ} {a a' : Attached} {effects : List (Effect σ)}
      {s s' : String} {ws ws' : List (Word σ)} (hw : effect.Keeps S)
      (hrequest : request g effect a = .ok ⟨effects, some s⟩)
      (hrequest' : request g effect' a' = .ok ⟨effects, some s'⟩) (hvalue : L.Allows effects s s')
      (h : AlikeWords g L S ws ws') :
      AlikeWords g L S (.option effect a :: ws) (.option effect' a' :: ws')
  | placed {s s' : String} {ws ws' : List (Word σ)} (hplace : L.Places s s')
      (h : AlikeWords g L S ws ws') : AlikeWords g L S (.plain s :: ws) (.plain s' :: ws')

/-- What follows a word: if the word takes a value, the two lists begin with the same one or with
none. -/
def Follows (g : Grammar σ) (L : Leeway σ) (S : σ → σ → Prop) (taken : Bool)
    (ws ws' : List (Word σ)) : Prop :=
  match taken with
  | false => AlikeWords g L S ws ws'
  | true =>
    (∃ s rest rest', ws = .plain s :: rest ∧ ws' = .plain s :: rest' ∧
        AlikeWords g L S rest rest') ∨
      ¬ BeginsPlain ws ∧ ¬ BeginsPlain ws'

section

variable {g : Grammar σ} {L : Leeway σ} {S : σ → σ → Prop}
variable {s : String} {w w' : Word σ} {ws ws' : List (Word σ)}

theorem not_beginsPlain_nil : ¬ BeginsPlain ([] : List (Word σ)) := by
  rintro ⟨s, rest, h⟩
  cases h

theorem takesNext_eq_true (h : takesNext g w = true) :
    ∃ effect a r, w = .option effect a ∧ request g effect a = .ok r ∧ r.wantsNext = true := by
  cases w with
  | option effect a =>
    simp only [takesNext] at h
    cases hrequest : request g effect a with
    | error e =>
      rw [hrequest] at h
      cases h
    | ok r =>
      rw [hrequest] at h
      exact ⟨effect, a, r, rfl, hrequest, h⟩
  | _ => cases h

theorem AlikeWords.cons (hw : w.Keeps S) (h : Follows g L S (takesNext g w) ws ws') :
    AlikeWords g L S (w :: ws) (w :: ws') := by
  cases hnext : takesNext g w with
  | false =>
    rw [hnext] at h
    exact .same hw hnext h
  | true =>
    rw [hnext] at h
    rcases h with ⟨s, rest, rest', rfl, rfl, hrest⟩ | ⟨hws, hws'⟩
    · obtain ⟨effect, a, r, rfl, hrequest, hwants⟩ := takesNext_eq_true hnext
      exact .valued hw hrequest hwants (.inl rfl) hrest
    · exact .lacking hnext hws hws'

/-- Words that are alike follow another one, unless that could take the first of them. -/
theorem Follows.of_alike (taken : Bool) (h : AlikeWords g L S (w :: ws) (w' :: ws'))
    (hw : ∀ s, w ≠ .plain s) (hw' : ∀ s, w' ≠ .plain s) :
    Follows g L S taken (w :: ws) (w' :: ws') := by
  have hnot : ∀ (v : Word σ) (vs : List (Word σ)), (∀ s, v ≠ .plain s) →
      ¬ BeginsPlain (v :: vs) := by
    rintro v vs hv ⟨s, rest, hsame⟩
    exact hv s (List.cons.inj hsame).1
  cases taken with
  | false => exact h
  | true => exact .inr ⟨hnot w ws hw, hnot w' ws' hw'⟩

/-! ### The first stage -/

theorem Grammar.Keeps.keeps_of_lookup (hg : g.Keeps L S) {effect : Effect σ}
    (h : g.options.lookup s = some effect) : effect.Keeps S :=
  hg.options _ (mem_of_lookup h)

theorem keeps_otherwise (s : String) : (otherwise s : Word σ).Keeps S := by
  unfold otherwise
  split <;> trivial

theorem keeps_of_classifyLong (hg : g.Keeps L S) (h : classifyLong g s = .ok w) : w.Keeps S := by
  unfold classifyLong at h
  dsimp only at h
  split at h
  · obtain rfl := Except.ok.inj h
    exact keeps_otherwise s
  · next effect hmatches =>
    obtain rfl := Except.ok.inj h
    have hmem : effect ∈ longMatches g (Text.cut '=' s.toList).1 :=
      hmatches ▸ List.mem_singleton_self effect
    obtain ⟨o, ho, rfl⟩ := List.mem_map.mp hmem
    exact hg.options o (List.mem_of_mem_filter ho)
  · cases h

theorem keeps_classifyShort (hg : g.Keeps L S) (s : String) : (classifyShort g s).Keeps S := by
  unfold classifyShort
  split
  · next effect hfound => exact hg.keeps_of_lookup hfound
  · exact keeps_otherwise s

/-- A word does what one of the options does. -/
theorem keeps_of_classify (hg : g.Keeps L S) (h : classify g s = .ok w) : w.Keeps S := by
  unfold classify at h
  split at h
  · split at h
    · next effect hfound =>
      obtain rfl := Except.ok.inj h
      exact hg.keeps_of_lookup hfound
    · dsimp only at h
      split at h
      · next value effect _ hfound =>
        obtain rfl := Except.ok.inj h
        exact hg.keeps_of_lookup hfound
      · split at h
        · exact keeps_of_classifyLong hg h
        · obtain rfl := Except.ok.inj h
          exact keeps_classifyShort hg s
  · obtain rfl := Except.ok.inj h
    trivial

/-- Behind the separator everything is taken as it is. -/
theorem alikeWords_plain {as as' : List String} (h : List.Forall₂ L.Places as as') :
    AlikeWords g L S (as.map .plain) (as'.map .plain) := by
  induction h with
  | nil => exact .nil
  | cons hs _ ih => exact .placed hs ih

theorem classifyAll_cons (h : Plays g s w) (as : List String) :
    classifyAll g (s :: as) = (classifyAll g as).map (w :: ·) := by
  rw [classifyAll, if_neg h.1, h.2]

/-- **The roles of arguments.** Lists of arguments that are alike have words that are. -/
theorem classifyAll_paired (hg : g.Keeps L S) {taken : Bool} {as as' : List String}
    (h : AlikeArguments g L taken as as') :
    Paired Eq (Follows g L S taken) (classifyAll g as) (classifyAll g as') := by
  induction h with
  | @nil taken =>
    refine .ok ?_
    cases taken with
    | false => exact .nil
    | true => exact .inr ⟨not_beginsPlain_nil, not_beginsPlain_nil⟩
  | @same taken s as as' hs h ih =>
    cases hclass : classify g s with
    | error e =>
      have hfails : ∀ rest, classifyAll g (s :: rest) = .error e := by
        intro rest
        rw [classifyAll, if_neg hs, hclass]
      rw [hfails, hfails]
      exact .error rfl
    | ok w =>
      have hplays : Plays g s w := ⟨hs, hclass⟩
      have htaken : argumentTakesNext g s = takesNext g w := by
        unfold argumentTakesNext
        rw [hclass]
      rw [classifyAll_cons hplays, classifyAll_cons hplays]
      rw [htaken] at ih
      have hw := keeps_of_classify hg hclass
      refine ih.map fun ws ws' hws => ?_
      by_cases hplain : ∃ text, w = .plain text
      · -- a text takes nothing, so it may itself be the value that is wanted
        obtain ⟨text, rfl⟩ := hplain
        cases taken with
        | false => exact .placed (.inl rfl) hws
        | true => exact .inl ⟨text, ws, ws', rfl, rfl, hws⟩
      · have hnot : ∀ text, w ≠ .plain text := fun text htext => hplain ⟨text, htext⟩
        exact .of_alike taken (.cons hw hws) hnot hnot
  | @valued taken r o s s' as as' ho hnext hs hs' hvalue h ih =>
    obtain ⟨effect, a, hplays, hrequest⟩ := ho
    have hw : (Word.option effect a).Keeps S := keeps_of_classify hg hplays.2
    rw [classifyAll_cons hplays, classifyAll_cons hs, classifyAll_cons hplays, classifyAll_cons hs']
    rcases ih.cases with ⟨e, e', hrest, hrest', he⟩ | ⟨ws, ws', hrest, hrest', hws⟩
    · rw [hrest, hrest']
      exact .error he
    · rw [hrest, hrest']
      have halike := AlikeWords.valued hw hrequest hnext hvalue hws
      exact .ok (.of_alike taken halike nofun nofun)
  | @attached taken effects o o' s s' as as' ho ho' hvalue h ih =>
    obtain ⟨effect, a, hplays, hrequest⟩ := ho
    obtain ⟨effect', a', hplays', hrequest'⟩ := ho'
    have hw : (Word.option effect a).Keeps S := keeps_of_classify hg hplays.2
    rw [classifyAll_cons hplays, classifyAll_cons hplays']
    refine ih.map fun ws ws' hws => ?_
    have halike := AlikeWords.attached hw hrequest hrequest' hvalue hws
    exact .of_alike taken halike nofun nofun
  | @placed s s' as as' hs hs' hplace h ih =>
    rw [classifyAll_cons hs, classifyAll_cons hs']
    exact ih.map fun ws ws' hws => .placed hplace hws
  | @separated taken as as' h =>
    have hrest : ∀ rest, classifyAll g (separatorText :: rest) =
        .ok (.separator :: rest.map .plain) := fun rest => by rw [classifyAll, if_pos rfl]
    rw [hrest, hrest]
    exact .ok (.of_alike taken (.same trivial rfl (alikeWords_plain h)) nofun nofun)

/-! ### The second stage -/

/-- What has been read of two lists, with `S` between the two states. -/
structure Progress.Alike (g : Grammar σ) (S : σ → σ → Prop) (p q : Progress σ) : Prop where
  state : S p.state q.state
  missing : p.missing = q.missing
  known : p.missing ⊆ g.positionals
  placed : p.placed = q.placed
  surplus : p.surplus = q.surplus

variable {p q : Progress σ}

theorem Progress.Alike.place (hg : g.Keeps L S) (h : p.Alike g S q) {s s' : String}
    (hs : L.Places s s') : (p.place s).Alike g S (q.place s') := by
  obtain ⟨state, missing, placed, surplus⟩ := p
  obtain ⟨state', missing', placed', surplus'⟩ := q
  obtain ⟨hstate, rfl, hknown, rfl, rfl⟩ := h
  cases missing with
  | nil => exact ⟨hstate, rfl, hknown, rfl, rfl⟩
  | cons f missing =>
    obtain ⟨hf, hmissing⟩ := List.cons_subset.mp hknown
    exact ⟨hg.positionals f hf s s' hs _ _ hstate, rfl, hmissing, rfl, rfl⟩

/-- One more effect in front of others. -/
theorem keeps_of_cons {effect : Effect σ} {more : Except Ending (Request σ)} {r : Request σ}
    (heffect : effect.Keeps S) (hmore : ∀ r, more = .ok r → ∀ e ∈ r.effects, e.Keeps S)
    (h : more.map (Request.cons effect) = .ok r) : ∀ e ∈ r.effects, e.Keeps S := by
  cases more with
  | error e => cases h
  | ok rest =>
    obtain rfl := Except.ok.inj h
    exact List.forall_mem_cons.mpr ⟨heffect, hmore rest rfl⟩

theorem keeps_of_readLetters (hg : g.Keeps L S) {letters : List Char} {r : Request σ}
    (h : readLetters g letters = .ok r) : ∀ e ∈ r.effects, e.Keeps S := by
  induction letters generalizing r with
  | nil => cases h
  | cons c rest ih =>
    unfold readLetters at h
    cases hfound : g.options.lookup (String.ofList ['-', c]) with
    | none =>
      rw [hfound] at h
      cases h
    | some effect =>
      rw [hfound] at h
      have heffect := hg.keeps_of_lookup hfound
      cases rest with
      | nil =>
        obtain rfl := Except.ok.inj h
        exact List.forall_mem_singleton.mpr heffect
      | cons d rest =>
        -- a value takes the letters that are left, anything else is followed by what they ask for
        cases effect with
        | value f =>
          obtain rfl := Except.ok.inj h
          exact List.forall_mem_singleton.mpr heffect
        | help => exact keeps_of_cons heffect (fun _ => ih) h
        | switch f => exact keeps_of_cons heffect (fun _ => ih) h

theorem keeps_of_request (hg : g.Keeps L S) {effect : Effect σ} {a : Attached} {r : Request σ}
    (heffect : effect.Keeps S) (h : request g effect a = .ok r) :
    ∀ e ∈ r.effects, e.Keeps S := by
  unfold request at h
  split at h
  · obtain rfl := Except.ok.inj h
    exact List.forall_mem_singleton.mpr heffect
  · obtain rfl := Except.ok.inj h
    exact List.forall_mem_singleton.mpr heffect
  · cases h
  · exact keeps_of_cons heffect (fun _ => keeps_of_readLetters hg) h

/-- An effect takes values that may stand for each other alike. -/
theorem value_paired (hg : g.Keeps L S) {f : Option String → σ → Option σ} {s s' : String} {x y : σ}
    (hf : (Effect.value f).Keeps S) (hs : s = s' ∨ L.value f s s') (h : S x y) :
    Option.Rel S (f (if s = separatorText then none else some s) x)
      (f (if s' = separatorText then none else some s') y) := by
  rcases hs with rfl | hvalue
  · exact hf _ _ _ h
  · obtain ⟨hs, hs', hrel⟩ := hg.values f s s' hvalue
    rw [if_neg hs, if_neg hs']
    exact hrel _ _ h

theorem perform_paired (hg : g.Keeps L S) {s s' : String} {effects : List (Effect σ)}
    (heffects : ∀ e ∈ effects, e.Keeps S) (hvalue : L.Allows effects s s') (h : p.Alike g S q) :
    Paired Eq (Progress.Alike g S) (perform s effects p) (perform s' effects q) := by
  induction effects generalizing p q with
  | nil => exact .ok h
  | cons effect rest ih =>
    obtain ⟨hkeeps, hrest⟩ := List.forall_mem_cons.mp heffects
    have hvalues : L.Allows rest s s' := hvalue.imp id fun hall f hf => hall f (.tail _ hf)
    cases effect with
    | help => exact .error rfl
    | switch f => exact ih hrest hvalues { h with state := hkeeps _ _ h.state }
    | value f =>
      have hrel := value_paired hg hkeeps (hvalue.imp id fun hall => hall f (.head _)) h.state
      unfold perform
      generalize f _ p.state = x? at hrel ⊢
      generalize f _ q.state = y? at hrel ⊢
      cases hrel with
      | none => exact .error rfl
      | some hstate => exact ih hrest hvalues { h with state := hstate }

/-- What is asked for in one argument is granted alike. -/
theorem grant_paired (hg : g.Keeps L S) {r r' : Request σ} {s s' : String}
    (hr : r.effects = r'.effects) (heffects : ∀ e ∈ r.effects, e.Keeps S)
    (hvalue : L.Allows r.effects s s') (h : p.Alike g S q) :
    Paired Eq (Progress.Alike g S) (p.grant r s) (q.grant r' s') := by
  unfold Progress.grant
  rw [← hr]
  exact perform_paired hg heffects hvalue { h with placed := rfl }

section

variable {effect : Effect σ} {a : Attached} {r : Request σ}

/-- An option whose value is in the same argument, or that takes none. -/
theorem readWords_alone (hrequest : request g effect a = .ok r) (h : r.wantsNext = false)
    (ws : List (Word σ)) (p : Progress σ) :
    readWords g (.option effect a :: ws) p =
      (p.grant r (r.value.getD "")).bind (readWords g ws) := by
  unfold readWords
  rw [hrequest]
  dsimp only
  rw [h, if_neg Bool.false_ne_true]
  cases p.grant r (r.value.getD "") <;> rfl

/-- An option whose value is the next word. -/
theorem readWords_next (hrequest : request g effect a = .ok r) (h : r.wantsNext = true) (s : String)
    (ws : List (Word σ)) (p : Progress σ) :
    readWords g (.option effect a :: .plain s :: ws) p = (p.grant r s).bind (readWords g ws) := by
  rw [readWords, hrequest]
  dsimp only
  rw [if_pos h]
  cases p.grant r s <;> rfl

/-- An option whose value is missing. -/
theorem readWords_lacking (hrequest : request g effect a = .ok r) (h : r.wantsNext = true)
    (hws : ¬ BeginsPlain ws) (p : Progress σ) :
    readWords g (.option effect a :: ws) p = .error .misused := by
  unfold readWords
  rw [hrequest]
  dsimp only
  rw [if_pos h]
  split
  · next s rest => exact absurd ⟨s, rest, rfl⟩ hws
  · rfl

end

theorem AlikeWords.isEmpty (h : AlikeWords g L S ws ws') : ws.isEmpty = ws'.isEmpty := by
  cases h <;> rfl

/-- **The effects of words.** Words that are alike have effects that are. -/
theorem readWords_paired (hg : g.Keeps L S) (h : AlikeWords g L S ws ws') (hp : p.Alike g S q) :
    Paired Eq (Progress.Alike g S) (readWords g ws p) (readWords g ws' q) := by
  induction h generalizing p q with
  | nil => exact .ok hp
  | @same w ws ws' hw halone h ih =>
    cases w with
    | separator =>
      refine ih { hp with placed := hp.placed, surplus := ?_ }
      dsimp only
      rw [hp.placed, hp.missing, hp.surplus, h.isEmpty]
    | plain s => exact ih (hp.place hg (.inl rfl))
    | unknown => exact ih { hp with placed := rfl, surplus := rfl }
    | option effect a =>
      simp only [takesNext] at halone
      cases hrequest : request g effect a with
      | error e =>
        have hfails : ∀ vs (p : Progress σ), readWords g (.option effect a :: vs) p = .error e := by
          intro vs p
          rw [readWords, hrequest]
        rw [hfails, hfails]
        exact .error rfl
      | ok r =>
        rw [hrequest] at halone
        rw [readWords_alone hrequest halone, readWords_alone hrequest halone]
        have heffects := keeps_of_request hg hw hrequest
        exact (grant_paired hg rfl heffects (.inl rfl) hp).bind fun _ _ => ih
  | @lacking w ws ws' hnext h h' =>
    obtain ⟨effect, a, r, rfl, hrequest, hwants⟩ := takesNext_eq_true hnext
    rw [readWords_lacking hrequest hwants h, readWords_lacking hrequest hwants h']
    exact .error rfl
  | @valued effect a r s s' ws ws' hw hrequest hnext hvalue h ih =>
    rw [readWords_next hrequest hnext, readWords_next hrequest hnext]
    have hgranted := grant_paired hg rfl (keeps_of_request hg hw hrequest) hvalue hp
    exact hgranted.bind fun _ _ => ih
  | @attached effect effect' a a' effects s s' ws ws' hw hrequest hrequest' hvalue h ih =>
    have halone : ∀ s : String, (⟨effects, some s⟩ : Request σ).wantsNext = false := by
      intro s
      unfold Request.wantsNext
      split
      · contradiction
      · rfl
    rw [readWords_alone hrequest (halone s), readWords_alone hrequest' (halone s')]
    have hgranted : Paired Eq (Progress.Alike g S) (p.grant ⟨effects, some s⟩ s)
        (q.grant ⟨effects, some s'⟩ s') :=
      grant_paired hg rfl (keeps_of_request hg hw hrequest) hvalue hp
    exact hgranted.bind fun _ _ => ih
  | @placed s s' ws ws' hplace h ih => exact ih (hp.place hg hplace)

/-- **What two lists of arguments ask for.** Lists of arguments that are alike come to the same
ending, or to states in a relation that the grammar keeps. -/
theorem Grammar.read_paired (hg : g.Keeps L S) {as as' : List String}
    (h : AlikeArguments g L false as as') {x y : σ} (hstart : S x y) :
    Paired Eq S (g.read x as) (g.read y as') := by
  unfold Grammar.read
  rcases (classifyAll_paired hg h).cases with ⟨e, _, hfails, hfails', rfl⟩ |
    ⟨ws, ws', hws, hws', halike⟩
  · rw [hfails, hfails']
    exact .error rfl
  · rw [hws, hws']
    dsimp only
    have hp : Progress.Alike g S { state := x, missing := g.positionals }
        { state := y, missing := g.positionals } := ⟨hstart, rfl, List.Subset.refl _, rfl, rfl⟩
    rcases (readWords_paired hg halike hp).cases with ⟨e, _, hends, hends', rfl⟩ |
      ⟨p, q, hends, hends', hend⟩
    · rw [hends, hends']
      exact .error rfl
    · rw [hends, hends']
      dsimp only
      rw [hend.missing, hend.surplus]
      split
      · exact .ok hend.state
      · exact .error rfl

end

end ClusterConnect.CommandLine
