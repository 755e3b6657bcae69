import LifecycleOperator.Proofs.Pass.Footprint

/-!
# Installations are spared

A pass neither creates nor replaces an installation: the only thing that it ever sets of
one is its status.  This can be told from what a pass may ask for, part by part.  So an
installation keeps its place and its name, and with them the keys of all that belongs to
it, whatever else becomes of the store.
-/

namespace LifecycleOperator
namespace Pass

/-! ## Calls that spare installations -/

/-- A call neither creates nor replaces an installation. -/
def Sparing : Call → Prop
  | .cluster (.create kind _ _) => kind ≠ .installation
  | .cluster (.replace kind _ _ _) => kind ≠ .installation
  | _ => True

/-- Nothing that is asked of the cluster to install something concerns an installation. -/
theorem mayInstall_sparing (installation : Installation) :
    MayInstall Sparing installation where
  looks := fun _ _ => trivial
  creates := fun _ _ different => different
  adopts := fun _ _ => by simp [Sparing]
  tells := fun _ => trivial

/-- A pass spares installations. -/
theorem asks_reconcile_sparing (namespaceName name : String) :
    (reconcile namespaceName name).Asks Sparing := by
  refine Program.Asks.bind ⟨trivial, fun answer => trivial⟩ ?_
  intro sought
  cases sought with
  | none => trivial
  | some installation =>
      have may := mayInstall_sparing installation
      refine Program.Asks.bind ⟨trivial, fun answer => trivial⟩ ?_
      intro marked
      cases marked with
      | none => exact may.asks_install fun _ => trivial
      | some marker => exact may.mayAdopt.asks_follow trivial fun _ => trivial

/-! ## The installation stays -/

/-- A call that spares installations changes nothing of an installation but its status. -/
theorem installed_of_answers
    {property : Installation → Prop} {namespaceName name : String}
    {store after : Store} {exchange : Exchange} {permitted : ClusterCall → Verdict → Prop}
    (withStatus : ∀ current status,
      property current → property (Installation.withStatus current status))
    (spares : Sparing exchange.call)
    (answers : store.Answers permitted exchange after)
    (installed : ∃ current,
      store.find? ⟨.installation, namespaceName, name⟩ = some current ∧ property current) :
    ∃ current,
      after.find? ⟨.installation, namespaceName, name⟩ = some current ∧ property current := by
  have elsewhere : ∀ {kind : Kind} (place : String) (object : Object kind),
      kind ≠ .installation → ∃ current, (store.insert place object).find?
        ⟨.installation, namespaceName, name⟩ = some current ∧ property current := by
    intro kind place object different
    obtain ⟨current, stored, holds⟩ := installed
    refine ⟨current, ?_, holds⟩
    rw [← stored]
    apply Store.find?_put_of_ne
    intro same
    exact different (congrArg Key.kind same)
  have effect := answers.effect
  generalize exchange.call = call at spares effect
  cases effect with
  | nothing => exact installed
  | creation _ place object => exact elsewhere place object spares
  | replacement _ place _ object => exact elsewhere place object spares
  | update place other status former found =>
      obtain ⟨current, stored, holds⟩ := installed
      by_cases same : (⟨.installation, place, other⟩ : Key) =
          ⟨.installation, namespaceName, name⟩
      · simp only [Key.mk.injEq, true_and] at same
        obtain ⟨rfl, rfl⟩ := same
        obtain rfl := Option.some.inj (found.symm.trans stored)
        exact ⟨Installation.withStatus former status, Store.find?_put_self _ _ _,
          withStatus former status holds⟩
      · refine ⟨current, ?_, holds⟩
        rw [← stored]
        exact Store.find?_put_of_ne _ _ same

/-- There is an installation of this place and name. -/
def Keeps (installation : Installation) (name : String) (store : Store) : Prop :=
  ∃ current : Installation,
    store.find? ⟨.installation, installation.namespaceName, name⟩ = some current ∧
      current.namespaceName = installation.namespaceName ∧
      current.anyName = installation.anyName

/-- A call that spares installations leaves an installation its place and name. -/
theorem keeps_of_answers
    {installation : Installation} {name : String} {store after : Store} {exchange : Exchange}
    (spares : Sparing exchange.call)
    (answers : store.Answers Verdict.Candid exchange after)
    (keeps : Keeps installation name store) :
    Keeps installation name after :=
  installed_of_answers (fun _ _ identified => identified) spares answers keeps

end Pass
end LifecycleOperator
