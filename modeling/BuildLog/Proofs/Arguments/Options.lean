import BuildLog.Arguments
import Mathlib.Data.List.Pairwise
import Mathlib.Data.List.Perm.Basic

/-! Options as they are written, and what is given with them. The order of the options does not matter
as long as none of them sets what another one sets. -/

namespace BuildLog.Arguments

/-- An option as it is written: a flag in one argument, or a name and a value in two. -/
inductive Written where
  | verbose
  | versionSuffix (pattern : String)
  | style (style : PathStyle)
  | format (format : ReportFormat)
  | input (path : String)
  deriving DecidableEq, Repr

/-- Where an option may stand, such an argument is one. A lone hyphen is none. -/
def LooksLikeOption (arg : String) : Prop :=
  arg.toList.head? = some '-' ∧ 2 ≤ arg.toList.length

instance (arg : String) : Decidable (LooksLikeOption arg) :=
  inferInstanceAs (Decidable (_ ∧ _))

namespace Written

def args : Written → List String
  | .verbose => ["-v"]
  | .versionSuffix pattern => ["--version-suffix", pattern]
  | .style s => ["--style", s.name]
  | .format f => ["--format", f.name]
  | .input path => ["-i", path]

/-- What is given with an option besides what is given already. -/
def give (g : Given) : Written → Given
  | .verbose => g.raiseVerbosity
  | .versionSuffix pattern => { g with versionSuffix := some pattern }
  | .style s => { g with style := some s }
  | .format f => { g with format := some f }
  | .input path => { g with input := some path }

def setting? : Written → Option Setting
  | .verbose => none
  | .versionSuffix _ => some .versionSuffix
  | .style _ => some .style
  | .format _ => some .format
  | .input _ => some .input

/-- The value is not taken for an option where options may stand. -/
def IsPlain : Written → Prop
  | .input path => ¬ LooksLikeOption path
  | _ => True

/-- What the option sets has not been set yet. -/
def IsNew (g : Given) (o : Written) : Prop :=
  ∀ s, o.setting? = some s → g.has s = false

theorem has_give (g : Given) (o : Written) {s : Setting} (h : o.setting? ≠ some s) :
    (give g o).has s = g.has s := by
  cases o <;> cases s <;> first | rfl | exact (h rfl).elim

theorem give_comm {o p : Written} (h : o.setting? = p.setting? → o = p) (g : Given) :
    give (give g o) p = give (give g p) o := by
  cases o <;> cases p <;> first | rfl | (cases h rfl; rfl)

theorem eq_verbose_of_setting? {o : Written} (h : o.setting? = none) : o = .verbose := by
  cases o <;> first | rfl | cases h

theorem eq_of_setting?_eq {options : List Written} (h : (options.filterMap setting?).Nodup)
    {o p : Written} (ho : o ∈ options) (hp : p ∈ options) (hs : o.setting? = p.setting?) : o = p := by
  have hsymm : Std.Symm fun o p : Written => o.setting? = p.setting? → o = p :=
    ⟨fun o p h hs => (h hs.symm).symm⟩
  have hpairs : options.Pairwise fun o p => o.setting? = p.setting? → o = p := by
    refine (List.pairwise_filterMap.mp h).imp ?_
    intro o p hne hs
    cases ho : o.setting? with
    | none => rw [eq_verbose_of_setting? ho, eq_verbose_of_setting? (hs.symm.trans ho)]
    | some s => exact (hne s ho s (hs.symm.trans ho) rfl).elim
  exact hpairs.forall_of_forall (fun _ _ _ => rfl) ho hp hs

/-- What is given does not depend on the order if nothing is set twice. -/
theorem foldl_give_perm {options options' : List Written} (hperm : options.Perm options')
    (h : (options.filterMap setting?).Nodup) (g : Given) :
    options.foldl give g = options'.foldl give g :=
  hperm.foldl_eq' (fun _ ho _ hp g => give_comm (eq_of_setting?_eq h ho hp) g) g

theorem foldl_give_verbose {g : Given} (h : g.verbosity ≤ maxVerbosity) (n : Nat) :
    (List.replicate n verbose).foldl give g =
      { g with verbosity := min (g.verbosity + n) maxVerbosity } := by
  induction n generalizing g with
  | zero => simp [Nat.min_eq_left h]
  | succ n ih =>
    have hraise : g.raiseVerbosity.verbosity ≤ maxVerbosity := Nat.min_le_right _ _
    rw [List.replicate_succ, List.foldl_cons]
    refine (ih hraise).trans ?_
    simp only [Given.raiseVerbosity]
    congr 1
    omega

end Written

end BuildLog.Arguments
