import ClusterConnect.CommandLine.SampleDatabase
import ClusterConnect.Proofs.Configuration.Loading
import ClusterConnect.Proofs.Configuration.Spread

/-!
# Credentials in a configuration file

The command that sets up a sample database puts its credentials into the user's configuration file
and means to keep whatever else the file says. It does so by reading the file and writing it anew.

* `SampleDatabase.runFrom_storeCredentials`: a file that can be loaded is written.
* `SampleDatabase.Keepable`: the properties that the writer can write with the credentials.
* `SampleDatabase.kept_iff_keepable`: these are kept, with the credentials in place of any other; a
  file with other properties cannot be loaded any more.
* `SampleDatabase.lines_are_lost`: there are such files. One value over several lines is enough.
-/

namespace ClusterConnect

open Text Document

namespace Configuration

variable {files : FileTree} {path : Path} {p : Properties}

/-- A file that is there can be written again. -/
theorem exists_save {bytes : List UInt8} (h : files.read path = .ok bytes) (p : Properties) :
    ∃ files', save files path p = (.ok (), files') := by
  obtain ⟨files', hwrite⟩ := FileTree.exists_write h (Utf8.encode (render p))
  unfold save
  rw [FileTree.makeDirectories_parent h]
  simp only [hwrite]
  exact ⟨files', rfl⟩

/-- Properties without control characters are loaded from the file that they have been saved in. -/
theorem load_of_save {files' : FileTree} (h : save files path p = (.ok (), files'))
    (hw : Writable p) : load files' path = .ok (.ofList p.sorted) :=
  load_eq_ok_iff.mpr ⟨_, read_of_save h, decode_render hw⟩

/-- No other properties are loaded from the file that they have been saved in. -/
theorem load_of_save_not_writable {files' : FileTree} (h : save files path p = (.ok (), files'))
    (hw : ¬ Writable p) : ∃ f, load files' path = .error f ∧ f.isKind .config = true :=
  ⟨_, (load_eq_error_iff (read_of_save h)).mpr ⟨_, decode_render_not_writable hw, rfl⟩, rfl⟩

theorem writable_iff_plain (p : Properties) :
    Writable p ↔ ∀ k v, p.get? k = some v → Plain (k, v) := by
  rw [writable_iff]
  simp only [p.sorted_perm.mem_iff, Prod.forall, Properties.get?, lookup_eq_some_iff_mem p.nodup]

end Configuration

open ClusterConnect.Configuration

namespace SampleDatabase

variable {τ : Type} {file : Path} {env : Environment τ} {p : Properties}

/-! ## What is written -/

theorem get?_withCredentials (d : SampleDatabase) (p : Properties) (k : String) :
    (d.withCredentials p).get? k =
      if k = Property.password.name then some (shown d.password)
      else if k = Property.user.name then some (shown d.user)
      else p.get? k := by
  unfold withCredentials
  rw [Properties.get?_insert, Properties.get?_insert]

/-- Properties that can be kept: neither they, apart from the credentials among them, nor the new
credentials hold a control character other than the tab. -/
structure Keepable (d : SampleDatabase) (p : Properties) : Prop where
  user : ¬ Controlled (shown d.user).toList
  password : ¬ Controlled (shown d.password).toList
  others : ∀ k v, k ≠ Property.user.name → k ≠ Property.password.name → p.get? k = some v →
    Plain (k, v)

theorem writable_withCredentials_iff (d : SampleDatabase) (p : Properties) :
    Writable (d.withCredentials p) ↔ d.Keepable p := by
  -- the names of the credentials are fixed, so it is for the values to be plain
  have huser : ¬ Controlled Property.user.name.toList := by
    simp [Controlled, Property.user, isForbidden]
  have hpassword : ¬ Controlled Property.password.name.toList := by
    simp [Controlled, Property.password, isForbidden]
  rw [writable_iff_plain]
  constructor
  · intro h
    have hget := d.get?_withCredentials p
    have hnames : Property.user.name ≠ Property.password.name := by decide
    refine ⟨(h Property.user.name (shown d.user) ?_).2,
      (h Property.password.name (shown d.password) ?_).2, ?_⟩
    · rw [hget, if_neg hnames, if_pos rfl]
    · rw [hget, if_pos rfl]
    · intro k v hu hp hkv
      refine h k v ?_
      rw [hget, if_neg hp, if_neg hu, hkv]
  · intro h k v hkv
    rw [get?_withCredentials] at hkv
    split at hkv
    · next hk =>
      subst hk
      rw [← Option.some.inj hkv]
      exact ⟨hpassword, h.password⟩
    · next hp =>
      split at hkv
      · next hk =>
        subst hk
        rw [← Option.some.inj hkv]
        exact ⟨huser, h.user⟩
      · next hu => exact h.others k v hu hp hkv

/-! ## The course of the command -/

theorem runFrom_storedProperties (h : load env.files file = .ok p) :
    (storedProperties file).runFrom env = (.ok p, env) := by
  obtain ⟨bytes, hread, -⟩ := load_eq_ok_iff.mp h
  unfold storedProperties
  rw [Act.runFrom_bind_of_ok (Act.runFrom_get env)]
  simp only [FileTree.isFile_eq_true_iff.mpr ⟨bytes, hread⟩, h]
  rfl

/-- A file that can be loaded is written, with the credentials among its properties. -/
theorem runFrom_storeCredentials (d : SampleDatabase) (h : load env.files file = .ok p) :
    ∃ files, save env.files file (d.withCredentials p) = (.ok (), files) ∧
      ((d.storeCredentials file).runFrom env).1 = .ok () ∧
      ((d.storeCredentials file).runFrom env).2.files = files := by
  obtain ⟨bytes, hread, -⟩ := load_eq_ok_iff.mp h
  obtain ⟨files, hsave⟩ := exists_save hread (d.withCredentials p)
  refine ⟨files, hsave, ?_⟩
  unfold storeCredentials
  rw [Act.runFrom_bind_of_ok (runFrom_storedProperties h),
    Act.runFrom_bind_of_ok (Act.runFrom_get env), hsave]
  exact ⟨rfl, rfl⟩

/-- A file with other properties cannot be loaded any more. -/
theorem load_of_not_keepable {d : SampleDatabase} (h : load env.files file = .ok p)
    (hp : ¬ d.Keepable p) :
    ∃ f, load ((d.storeCredentials file).runFrom env).2.files file = .error f ∧
      f.isKind .config = true := by
  obtain ⟨files, hsave, -, hfiles⟩ := runFrom_storeCredentials d h
  rw [← writable_withCredentials_iff] at hp
  rw [hfiles]
  exact load_of_save_not_writable hsave hp

/-- **The credentials are stored beside what the file says, if that can be written.** The command
takes any file that can be loaded and ends without a failure. Then:

* the file can be loaded and has the properties that it had, with the credentials in place of any
  other, exactly if neither these properties nor the credentials hold a control character other than
  the tab;
* otherwise the file is refused with a configuration error, whatever else it said. -/
theorem kept_iff_keepable (d : SampleDatabase) (hload : load env.files file = .ok p) :
    let r := (d.storeCredentials file).runFrom env
    r.1 = .ok () ∧
    ((∃ q, load r.2.files file = .ok q ∧ ∀ k, q.get? k =
        if k = Property.password.name then some (shown d.password)
        else if k = Property.user.name then some (shown d.user)
        else p.get? k) ↔ d.Keepable p) ∧
    (¬ d.Keepable p → ∃ f, load r.2.files file = .error f ∧ f.isKind .config = true) := by
  intro r
  obtain ⟨files, hsave, hdone, hfiles⟩ := runFrom_storeCredentials d hload
  refine ⟨hdone, ⟨?_, ?_⟩, load_of_not_keepable hload⟩
  · rintro ⟨q, hq, -⟩
    apply Classical.byContradiction
    intro hp
    obtain ⟨f, hf, -⟩ := load_of_not_keepable hload hp
    rw [hf] at hq
    cases hq
  · intro hp
    have hw := (d.writable_withCredentials_iff p).mpr hp
    refine ⟨.ofList (d.withCredentials p).sorted, ?_, ?_⟩
    · rw [hfiles]
      exact load_of_save hsave hw
    · intro k
      rw [Properties.get?_ofList_sorted, get?_withCredentials]

/-- A file with a name between quotation marks, and two passwords. -/
theorem kept_iff_keepable_marks :
    let file : Path := ⟨"", ["driverconfig.toml"]⟩
    let text := "[properties]\n\"applicationName\" = '''\nthe \"demo\"'''\n"
    let files : FileTree := { entries := [(["driverconfig.toml"], .file (Utf8.encode text.toList))] }
    let env : Environment Int := { now := 0, files }
    let after (password : String) : FileTree :=
      ((({ password := some password } : SampleDatabase).storeCredentials file).runFrom env).2.files
    load env.files file = .ok (.ofList [("applicationName", "the \"demo\"")]) ∧
      (∃ q, load (after "\\\"") file = .ok q ∧ q.get? "password" = some "\\\"" ∧
        q.get? "applicationName" = some "the \"demo\"") ∧
      ∃ f, load (after "\"\nuser = \"root") file = .error f ∧ f.isKind .config = true := by
  intro file text files env after
  have htext : text.toList =
      "[properties]\n".toList ++ spread ("applicationName", "the \"demo\"") := by decide
  have hspread : Spreadable ("applicationName", "the \"demo\"") :=
    ⟨by simp [Controlled, isForbidden], by simp [isForbidden]⟩
  have hload : load env.files file = .ok (.ofList [("applicationName", "the \"demo\"")]) := by
    rw [load_eq_ok_iff]
    exact ⟨Utf8.encode text.toList, rfl, htext ▸ decode_spread hspread⟩
  have hothers : ∀ k v, (Properties.ofList [("applicationName", "the \"demo\"")]).get? k = some v →
      Plain (k, v) := by
    intro k v hkv
    have hone : Properties.ofList [("applicationName", "the \"demo\"")] =
        Properties.empty.insert "applicationName" "the \"demo\"" := rfl
    rw [hone, Properties.get?_insert] at hkv
    split at hkv
    · next hk =>
      rw [hk, ← Option.some.inj hkv]
      simp [Plain, Controlled, isForbidden]
    · exact absurd hkv (by simp [Properties.get?_empty])
  obtain ⟨-, hkept, -⟩ := kept_iff_keepable { password := some "\\\"" } hload
  obtain ⟨q, hq, hget⟩ := hkept.mpr ⟨by simp [shown, Controlled, isForbidden],
    by simp [shown, Controlled, isForbidden], fun k v _ _ => hothers k v⟩
  obtain ⟨-, -, hlost⟩ := kept_iff_keepable { password := some "\"\nuser = \"root" } hload
  refine ⟨hload, ⟨q, hq, ?_, ?_⟩, hlost fun hp => hp.password ⟨'\n', by decide, by decide⟩⟩
  · rw [hget]
    rfl
  · rw [hget]
    rfl

/-! ## What is lost -/

/-- A property over several lines costs the file everything that it said. -/
theorem lines_are_lost (d : SampleDatabase) {e : String × String} (h : Spreadable e)
    (huser : e.1 ≠ Property.user.name) (hpassword : e.1 ≠ Property.password.name)
    (hline : '\n' ∈ e.2.toList)
    (hread : env.files.read file = .ok (Utf8.encode ("[properties]\n".toList ++ spread e))) :
    load env.files file = .ok (.ofList [e]) ∧
      ((d.storeCredentials file).runFrom env).1 = .ok () ∧
      ∃ f, load ((d.storeCredentials file).runFrom env).2.files file = .error f ∧
        f.isKind .config = true := by
  have hload : load env.files file = .ok (.ofList [e]) :=
    load_eq_ok_iff.mpr ⟨_, hread, decode_spread h⟩
  have hget : (Properties.ofList [e]).get? e.1 = some e.2 := Properties.get?_insert_self _ _ _
  have hp : ¬ d.Keepable (.ofList [e]) := fun hp =>
    (hp.others e.1 e.2 huser hpassword hget).2 ⟨'\n', hline, by decide⟩
  obtain ⟨files, -, hdone, -⟩ := runFrom_storeCredentials d hload
  exact ⟨hload, hdone, load_of_not_keepable hload hp⟩

/-- A note of two lines. -/
theorem line_end_loses_properties :
    let file : Path := ⟨"", ["driverconfig.toml"]⟩
    let text := "[properties]\n\"note\" = '''\na\nb'''\n"
    let files : FileTree := { entries := [(["driverconfig.toml"], .file (Utf8.encode text.toList))] }
    let env : Environment Int := { now := 0, files }
    let r := (({} : SampleDatabase).storeCredentials file).runFrom env
    load env.files file = .ok (.ofList [("note", "a\nb")]) ∧ r.1 = .ok () ∧
      ∃ f, load r.2.files file = .error f ∧ f.isKind .config = true := by
  intro file text files env r
  have htext : text.toList = "[properties]\n".toList ++ spread ("note", "a\nb") := by decide
  have hspread : Spreadable ("note", "a\nb") :=
    ⟨by simp [Controlled, isForbidden], by simp [isForbidden]⟩
  have hread : env.files.read file = .ok (Utf8.encode text.toList) := rfl
  exact lines_are_lost {} hspread (by decide) (by decide) (by decide) (htext ▸ hread)

end SampleDatabase

end ClusterConnect
