import Mathlib.Tactic.Common

/-!
# The K version check at start-up

`main` calls `_check_k_version`, which warns unless `_compare_versions` accepts the K version
that `pyk` expects and the one installed. Two versions are accepted when their major, minor
and patch numbers agree and either their git parts are equal, or exactly one of them has a
git part and that part is neither ahead of its tag nor dirty.

`KVersion` is `pyk`'s record; only the fields the comparison reads are modelled.
-/

namespace Kontrol

/-- The git part of a K version: commits past the release tag, the commit, and whether the
working tree was dirty. -/
structure KVersionGit where
  ahead : ℕ
  commit : String
  dirty : Bool
  deriving DecidableEq, Repr

/-- A K version as `KVersion.parse` reads it. -/
structure KVersion where
  major : ℕ
  minor : ℕ
  patch : ℕ
  git : Option KVersionGit
  deriving DecidableEq, Repr

/-- Whether a git part is a clean release: `not git.ahead and not git.dirty`. -/
def KVersionGit.clean (git : KVersionGit) : Bool := git.ahead == 0 && !git.dirty

/-- `_compare_versions(ver1, ver2)`. Once the git parts differ, two of them reject, and
otherwise the one present decides; the `assert git` case cannot arise after the equality
test. -/
def compareVersions (ver1 ver2 : KVersion) : Bool :=
  if ver1.major ≠ ver2.major ∨ ver1.minor ≠ ver2.minor ∨ ver1.patch ≠ ver2.patch then false
  else if ver1.git = ver2.git then true
  else match ver1.git, ver2.git with
    | some _, some _ => false
    | some git, none => git.clean
    | none, some git => git.clean
    | none, none => true

/-- `_check_k_version`: the warning "K version ... was expected but K version ... is being
used.", with both versions as `text` renders them, unless the versions are accepted. -/
def checkKVersion (text : KVersion → String) (expected actual : KVersion) : Option String :=
  if compareVersions expected actual then none
  else some ("K version " ++ text expected ++ " was expected but K version " ++ text actual ++
    " is being used.")

/-- What `_compare_versions` accepts: equal release numbers, and equal git parts or a single
clean one. -/
theorem compareVersions_iff (ver1 ver2 : KVersion) :
    compareVersions ver1 ver2 = true ↔
      ver1.major = ver2.major ∧ ver1.minor = ver2.minor ∧ ver1.patch = ver2.patch ∧
        (ver1.git = ver2.git ∨
          (∃ git, ver1.git = some git ∧ ver2.git = none ∧ git.clean = true) ∨
          (∃ git, ver1.git = none ∧ ver2.git = some git ∧ git.clean = true)) := by
  unfold compareVersions
  split_ifs with hnum hg
  · simp only [Bool.false_eq_true, false_iff, not_and]
    rcases hnum with h | h | h <;> intros <;> contradiction
  · simp_all
  · cases h1 : ver1.git <;> cases h2 : ver2.git <;> simp_all

/-- Acceptance is symmetric. -/
theorem compareVersions_symm {ver1 ver2 : KVersion} (h : compareVersions ver1 ver2 = true) :
    compareVersions ver2 ver1 = true := by
  rw [compareVersions_iff] at h ⊢
  obtain ⟨h1, h2, h3, hg | ⟨g, hg1, hg2, hc⟩ | ⟨g, hg1, hg2, hc⟩⟩ := h
  · exact ⟨h1.symm, h2.symm, h3.symm, .inl hg.symm⟩
  · exact ⟨h1.symm, h2.symm, h3.symm, .inr (.inr ⟨g, hg2, hg1, hc⟩)⟩
  · exact ⟨h1.symm, h2.symm, h3.symm, .inr (.inl ⟨g, hg2, hg1, hc⟩)⟩

/-- The comparison does not depend on which version comes first. -/
theorem compareVersions_comm (ver1 ver2 : KVersion) :
    compareVersions ver1 ver2 = compareVersions ver2 ver1 :=
  Bool.eq_iff_iff.mpr ⟨compareVersions_symm, compareVersions_symm⟩

end Kontrol
