import ActionForge.Proofs.Resolution

/-!
# What a type reference unfolds to

`resolveTree` goes from a type reference to the members of its type and from there to theirs, until it is at
the depth limit. `resolveTree_outcome` says what comes of it without going anywhere: at the top it is what
resolving the reference and each declared member gives, or else the first of their errors, and below the
limit it is resolving alone. Schemas may be circular, as each level is counted and none is looked at beyond
the last one.

One level is described relative to what the members come to (`Unfolds`, `FailsFirst`), so the description is
the same at every level (`resolveWithin_succ_eq_ok_iff`, `resolveWithin_succ_eq_error_iff`).
-/

namespace ActionForge

namespace Context

variable (context : Context)

/-! ## One level -/

/-- A tree is what a reference unfolds to when its members come to what `below` says: it has the details of
the reference, and under each name that a member is declared by, in the order in which the names first come,
what the last member of that name comes to. -/
structure Unfolds (below : Member → Except ActionError TypeTree) (ref : TypeRef)
    (fieldName : Option String) (tree : TypeTree) : Prop where
  details : context.resolve ref fieldName = .ok tree.details
  members : ∀ member ∈ context.schema.membersOf ref, ∃ child, below member = .ok child
  names : tree.children.keys = ((context.schema.membersOf ref).map Member.name).eraseDups
  last : ∀ name child, (name, child) ∈ tree.children ↔
    ∃ before member after, context.schema.membersOf ref = before ++ member :: after ∧
      member.name = name ∧ (∀ later ∈ after, later.name ≠ name) ∧ below member = .ok child

/-- An error is the first that unfolding a reference meets: the one of the reference itself, or else the one
of the first member, in the order of declaration, that comes to an error. -/
def FailsFirst (below : Member → Except ActionError TypeTree) (ref : TypeRef) (fieldName : Option String)
    (error : ActionError) : Prop :=
  context.resolve ref fieldName = .error error ∨
    (∃ details, context.resolve ref fieldName = .ok details) ∧
      ∃ before member after, context.schema.membersOf ref = before ++ member :: after ∧
        (∀ earlier ∈ before, ∃ child, below earlier = .ok child) ∧ below member = .error error

section Level

variable {context} {below : Member → Except ActionError TypeTree} {fault : Member → Option ActionError}
  {value : Member → TypeTree} {ref : TypeRef} {fieldName : Option String}

/-- What a member comes to is its value, when nothing is wrong with it. -/
theorem below_eq_ok_iff (hbelow : ∀ member, below member = checked (fault member) (value member))
    (member : Member) (child : TypeTree) :
    below member = .ok child ↔ fault member = none ∧ value member = child := by
  rw [hbelow, checked_eq_ok_iff]

/-- When no member is at fault, their values under their names are what the last members come to. -/
theorem mem_ofList_values_iff (hbelow : ∀ member, below member = checked (fault member) (value member))
    {members : List Member} (hfaults : ∀ member ∈ members, fault member = none) (name : String)
    (child : TypeTree) :
    (name, child) ∈ Entries.ofList (members.map fun member => (member.name, value member)) ↔
      ∃ before member after, members = before ++ member :: after ∧
        member.name = name ∧ (∀ later ∈ after, later.name ≠ name) ∧ below member = .ok child := by
  refine (Entries.mem_ofList_map_iff Member.name value).trans ?_
  constructor
  · rintro ⟨before, member, after, hsplit, hname, hvalue, hafter⟩
    have hfault : fault member = none := hfaults member (by simp [hsplit])
    exact ⟨before, member, after, hsplit, hname, hafter, (below_eq_ok_iff hbelow member child).2 ⟨hfault, hvalue⟩⟩
  · rintro ⟨before, member, after, hsplit, hname, hafter, hchild⟩
    exact ⟨before, member, after, hsplit, hname, ((below_eq_ok_iff hbelow member child).1 hchild).2, hafter⟩

/-- Unfolding a reference is finding no fault in it or its members, and giving the values of the members under
their names. -/
theorem unfolds_iff (hbelow : ∀ member, below member = checked (fault member) (value member))
    (tree : TypeTree) :
    context.Unfolds below ref fieldName tree ↔
      (context.useFault? ref (fieldName.getD ref.innermost)).or
          ((context.schema.membersOf ref).findSome? fault) = none ∧
        .node (context.detailsOf ref fieldName)
          (Entries.ofList ((context.schema.membersOf ref).map fun member => (member.name, value member))) =
            tree := by
  have hkeys : (Entries.ofList ((context.schema.membersOf ref).map fun member =>
      (member.name, value member))).keys = ((context.schema.membersOf ref).map Member.name).eraseDups := by
    rw [Entries.keys_ofList, List.map_map]
    rfl
  rw [Option.or_eq_none_iff, List.findSome?_eq_none_iff]
  constructor
  · rintro ⟨hdetails, hmembers, hnames, hlast⟩
    rw [resolve_eq, checked_eq_ok_iff] at hdetails
    have hfaults : ∀ member ∈ context.schema.membersOf ref, fault member = none := by
      intro member hmember
      obtain ⟨child, hchild⟩ := hmembers member hmember
      exact ((below_eq_ok_iff hbelow member child).1 hchild).1
    obtain ⟨details, children⟩ := tree
    -- The names and what stands under them leave no choice for the children.
    have hchildren : Entries.ofList ((context.schema.membersOf ref).map fun member =>
        (member.name, value member)) = children := by
      refine Entries.eq_of_keys_of_mem (Entries.distinct_ofList _) (hkeys.trans hnames.symm) ?_
      intro name child
      exact (mem_ofList_values_iff hbelow hfaults name child).trans (hlast name child).symm
    refine ⟨⟨hdetails.1, hfaults⟩, ?_⟩
    rw [hchildren, hdetails.2]
    rfl
  · rintro ⟨⟨huse, hfaults⟩, rfl⟩
    refine ⟨?_, fun member hmember => ?_, hkeys, mem_ofList_values_iff hbelow hfaults⟩
    · rw [resolve_eq, huse]
      rfl
    · exact ⟨value member, (below_eq_ok_iff hbelow member _).2 ⟨hfaults member hmember, rfl⟩⟩

/-- The first error is the first fault that is found, in the reference and then in its members. -/
theorem failsFirst_iff (hbelow : ∀ member, below member = checked (fault member) (value member))
    (error : ActionError) :
    context.FailsFirst below ref fieldName error ↔
      (context.useFault? ref (fieldName.getD ref.innermost)).or
        ((context.schema.membersOf ref).findSome? fault) = some error := by
  have hok : ∀ member, (∃ child, below member = .ok child) ↔ fault member = none := by
    intro member
    rw [hbelow]
    simp only [checked_eq_ok_iff, exists_and_left, exists_eq', and_true]
  have herror : ∀ member, below member = .error error ↔ fault member = some error :=
    fun member => by rw [hbelow, checked_eq_error_iff]
  rw [FailsFirst, resolve_eq, Option.or_eq_some_iff, List.findSome?_eq_some_iff]
  simp only [checked_eq_error_iff, checked_eq_ok_iff, exists_and_left, exists_eq', and_true, hok, herror]
  -- Both sides say that the list is split at the member, in another order.
  refine or_congr_right (and_congr_right fun _ => ?_)
  constructor
  · rintro ⟨before, member, after, hsplit, hbefore, hmember⟩
    exact ⟨before, member, after, hsplit, hmember, hbefore⟩
  · rintro ⟨before, member, after, hsplit, hmember, hbefore⟩
    exact ⟨before, member, after, hsplit, hbefore, hmember⟩

end Level

/-! ## All levels -/

/-- What is wrong with the types that are looked at: the type of the reference first, then those of the
members in the order of declaration. -/
def faultWithin? : Nat → TypeRef → Option String → Option ActionError
  | 0, ref, fieldName => context.useFault? ref (fieldName.getD ref.innermost)
  | levels + 1, ref, fieldName =>
    (context.useFault? ref (fieldName.getD ref.innermost)).or
      ((context.schema.membersOf ref).findSome? fun member =>
        faultWithin? levels member.type (some member.name))

/-- The tree for a reference when nothing is wrong. -/
def treeWithin : Nat → TypeRef → Option String → TypeTree
  | 0, ref, fieldName => .leaf (context.detailsOf ref fieldName)
  | levels + 1, ref, fieldName =>
    .node (context.detailsOf ref fieldName)
      (Entries.ofList ((context.schema.membersOf ref).map fun member =>
        (member.name, (treeWithin levels member.type (some member.name)).describe member.description)))

/-- What a member comes to above the given number of levels. -/
def memberWithin (levels : Nat) (member : Member) : Except ActionError TypeTree :=
  (context.resolveWithin levels member.type (some member.name)).map (TypeTree.describe member.description)

/-- Resolving to any number of levels is the tree of that many levels, checked for the faults in them. -/
theorem resolveWithin_eq (levels : Nat) (ref : TypeRef) (fieldName : Option String) :
    context.resolveWithin levels ref fieldName =
      checked (context.faultWithin? levels ref fieldName) (context.treeWithin levels ref fieldName) := by
  induction levels generalizing ref fieldName with
  | zero =>
    rw [resolveWithin, resolve_eq]
    exact checked_bind_pure _ _ _
  | succ levels ih =>
    -- Each member comes to a checked tree by induction, so the traversal of the members does too.
    have hmember : ∀ member : Member, (do
          let child ← context.resolveWithin levels member.type (some member.name)
          return (member.name, child.describe member.description)) =
        checked (context.faultWithin? levels member.type (some member.name))
          (member.name, (context.treeWithin levels member.type (some member.name)).describe
            member.description) := by
      intro member
      rw [ih]
      exact checked_bind_pure _ _ _
    rw [resolveWithin, resolve_eq, faultWithin?, treeWithin]
    refine checked_bind_eq ?_
    unfold Schema.membersOf
    cases (context.schema.get? ref.innermost).bind NamedType.members? with
    | none => rfl
    | some members =>
      simp only [mapM_checked hmember members]
      exact checked_bind_pure _ _ _

/-- What a member comes to is its tree under its own description, checked for the first fault in it. -/
theorem memberWithin_eq (levels : Nat) (member : Member) :
    context.memberWithin levels member =
      checked (context.faultWithin? levels member.type (some member.name))
        ((context.treeWithin levels member.type (some member.name)).describe member.description) := by
  rw [memberWithin, resolveWithin_eq]
  exact map_checked _ _ _

/-- A level more unfolds the reference to what its members come to. -/
theorem resolveWithin_succ_eq_ok_iff (levels : Nat) (ref : TypeRef) (fieldName : Option String)
    (tree : TypeTree) :
    context.resolveWithin (levels + 1) ref fieldName = .ok tree ↔
      context.Unfolds (context.memberWithin levels) ref fieldName tree := by
  rw [resolveWithin_eq, checked_eq_ok_iff, unfolds_iff (context.memberWithin_eq levels)]
  rfl

/-- A level more fails with the first error that unfolding meets. -/
theorem resolveWithin_succ_eq_error_iff (levels : Nat) (ref : TypeRef) (fieldName : Option String)
    (error : ActionError) :
    context.resolveWithin (levels + 1) ref fieldName = .error error ↔
      context.FailsFirst (context.memberWithin levels) ref fieldName error := by
  rw [resolveWithin_eq, checked_eq_error_iff, failsFirst_iff (context.memberWithin_eq levels)]
  rfl

/-- Without levels to go, a reference is resolved alone. -/
theorem resolveWithin_zero (ref : TypeRef) (fieldName : Option String) :
    context.resolveWithin 0 ref fieldName = (context.resolve ref fieldName).map .leaf := by
  rw [resolveWithin]
  cases context.resolve ref fieldName <;> rfl

/-! ## Down to the limit -/

/-- A member by itself: the details of its type under its name, with its own description, if it has one,
before the description of the type, and nothing below. -/
def memberLeaf (member : Member) : Except ActionError TypeTree :=
  (context.resolve member.type (some member.name)).map fun details =>
    .leaf { details with description := member.description.or details.description }

/-- At the last level a member is looked at by itself. -/
theorem memberWithin_zero : context.memberWithin 0 = context.memberLeaf := by
  funext member
  rw [memberWithin, memberLeaf, resolveWithin_zero]
  cases context.resolve member.type (some member.name) <;> rfl

/-- What forms are built from is the tree at the top. -/
theorem expand_eq_resolveTree (ref : TypeRef) (fieldName : Option String) :
    context.expand ref fieldName = (context.resolveTree ref fieldName 0).map TypeTree.expansion := by
  have htree : (context.treeWithin 1 ref fieldName).expansion = context.expansionOf ref fieldName := by
    have hchildren := Entries.map_ofList TypeTree.details ((context.schema.membersOf ref).map fun member =>
      (member.name, (context.treeWithin 0 member.type (some member.name)).describe member.description))
    rw [List.map_map] at hchildren
    have hexpansion := context.children_expansionOf ref fieldName
    exact congrArg (Expansion.mk _) (hchildren.trans hexpansion.symm)
  have hfault : context.faultWithin? 1 ref fieldName = context.expandFault? ref fieldName := rfl
  have hmap := map_checked TypeTree.expansion (context.faultWithin? 1 ref fieldName)
    (context.treeWithin 1 ref fieldName)
  rw [resolveTree, show depthLimit - 0 = 1 from rfl, resolveWithin_eq, expand_eq, ← htree, ← hfault]
  exact hmap.symm

/-- At the top a reference is resolved together with the members of its type, and at any depth below by
itself. It succeeds when the reference and all its members do, and fails with the first error otherwise, the
members taken in the order of declaration. What it gives has the details of the reference and, under the names
of the members without repetition and in the order in which they first come, the details of the last member
of that name. Forms are built from the same. -/
theorem resolveTree_outcome (ref : TypeRef) (fieldName : Option String) :
    ((∃ tree, context.resolveTree ref fieldName 0 = .ok tree) ↔
        (∃ details, context.resolve ref fieldName = .ok details) ∧
          ∀ member ∈ context.schema.membersOf ref,
            ∃ details, context.resolve member.type (some member.name) = .ok details) ∧
      (∀ error, context.resolveTree ref fieldName 0 = .error error ↔
        context.FailsFirst context.memberLeaf ref fieldName error) ∧
      (∀ tree, context.resolveTree ref fieldName 0 = .ok tree ↔
        context.Unfolds context.memberLeaf ref fieldName tree) ∧
      (∀ depth, context.resolveTree ref fieldName (depth + 1) =
        (context.resolve ref fieldName).map .leaf) ∧
      context.expand ref fieldName = (context.resolveTree ref fieldName 0).map TypeTree.expansion := by
  -- At the top there is one level to go, and below it none.
  have htop : context.resolveTree ref fieldName 0 = context.resolveWithin 1 ref fieldName := rfl
  refine ⟨?_, fun error => ?_, fun tree => ?_, fun depth => ?_,
    context.expand_eq_resolveTree ref fieldName⟩
  · simp only [htop, resolveWithin_eq, resolve_eq, checked_eq_ok_iff, exists_and_left, exists_eq', and_true]
    rw [faultWithin?, Option.or_eq_none_iff, List.findSome?_eq_none_iff]
    rfl
  · rw [htop, resolveWithin_succ_eq_error_iff, memberWithin_zero]
  · rw [htop, resolveWithin_succ_eq_ok_iff, memberWithin_zero]
  · have hlevels : depthLimit - (depth + 1) = 0 := by
      rw [depthLimit]
      omega
    rw [resolveTree, hlevels, resolveWithin_zero]

end Context

end ActionForge
