import YangBind.Proofs.Directory.PathOutcome
import YangBind.Proofs.Mapper.Agreement

/-! The two modes of paths. The absolute paths of a field are its relative ones with the path of the
directory in front, without the directory's module; and where one mode fails, the other one does. -/

namespace YangBind.Directory

variable {s : Schema} {d : Directory} {key : String} {n : Node s}

/-- A path below the directory, led from the module boundary. -/
def rebase (d : Directory) (p : SchemaPath) : SchemaPath :=
  (⟨d.path.segments.drop 2 ++ p.segments⟩ : SchemaPath).fromBoundary

/-- Whether the modules `abs` are those of the boundary, one for each segment of the directory after
its module, and then `rel`. -/
def RebasesModules (d : Directory) (rel abs : List String) : Prop :=
  ∃ own, own.length = d.path.length - 2 ∧ abs = "" :: (own ++ rel)

structure Rebases (d : Directory) (rel abs : MappedPath) : Prop where
  path_eq : abs.path = d.rebase rel.path
  modules : d.RebasesModules rel.modules abs.modules

theorem length_take_pathModules (h : n.schemaPath.isBelow d.path = true) :
    (n.pathModules.take d.path.length).length = d.path.length := by
  obtain ⟨rest, -, hrest⟩ := SchemaPath.isBelow_iff.1 h
  rw [List.length_take, Node.length_pathModules, Nat.min_eq_left]
  simp [SchemaPath.length, hrest]

theorem rebases_pathTo (hd : 2 ≤ d.path.length) (h : n.schemaPath.isBelow d.path = true) :
    d.Rebases (d.pathTo .relative n) (d.pathTo .absolute n) where
  path_eq := by
    obtain ⟨rest, -, hrest⟩ := SchemaPath.isBelow_iff.1 h
    simp only [pathTo, rebase, SchemaPath.drop, SchemaPath.length, hrest, List.drop_left]
    rw [List.drop_append_of_le_length hd]
  modules := by
    have hown := length_take_pathModules h
    refine ⟨(n.pathModules.take d.path.length).drop 2, by rw [List.length_drop, hown], ?_⟩
    have hsplit : n.pathModules.drop 2 = (n.pathModules.take d.path.length).drop 2 ++
        n.pathModules.drop d.path.length := by
      rw [← List.drop_append_of_le_length (by rwa [hown]), List.take_append_drop]
    exact congrArg ("" :: ·) hsplit

theorem rebases_aliasOf (h : n.schemaPath.isBelow d.path = true) :
    d.Rebases (d.aliasOf .relative n) (d.aliasOf .absolute n) where
  path_eq := rfl
  modules := ⟨_, by rw [List.length_drop, length_take_pathModules h], rfl⟩

theorem agree_listKeyAlias? (s : Schema) (d : Directory) (key : String) :
    Agree (Option.Rel d.Rebases) (d.listKeyAlias? s key .relative)
      (d.listKeyAlias? s key .absolute) := by
  unfold listKeyAlias?
  split
  case h_2 => exact .ok .none
  case h_1 elems _ _ =>
    refine Agree.bind_self _ fun found hfound => ?_
    cases found with
    | none => exact .ok .none
    | some n =>
      dsimp only
      split
      case isTrue => exact .ok .none
      case isFalse =>
        refine Agree.bind_self _ fun isKey _ => ?_
        cases isKey with
        | false => exact .ok .none
        | true => exact .ok (.some (rebases_aliasOf (locate_eq_some hfound).2))

theorem agree_mappedPaths (hd : 2 ≤ d.path.length) (s : Schema) (key : String) (compress : Bool)
    (b : Branch) :
    Agree (List.Forall₂ d.Rebases) (d.mappedPaths s key compress b .relative)
      (d.mappedPaths s key compress b .absolute) := by
  unfold mappedPaths
  refine Agree.bind_self _ fun found hfound => ?_
  cases found with
  | none => exact .ok .nil
  | some n =>
    have hpath := rebases_pathTo hd (locate_eq_some hfound).2
    cases compress with
    | false => exact .ok (.cons hpath .nil)
    | true =>
      refine (agree_listKeyAlias? s d key).bind fun keyAlias keyAlias' hrel => ?_
      cases hrel with
      | none => exact .ok (.cons hpath .nil)
      | some hp => exact .ok (.cons hpath (.cons hp .nil))

end YangBind.Directory
