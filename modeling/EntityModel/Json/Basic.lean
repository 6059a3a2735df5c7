import EntityModel.Json.Decimal

/-!
# JSON values

A value without the text it was read from: whole numbers are apart from numbers with a fraction, and the
members of an object keep the order in which they were given, at most one for each name.
-/

namespace EntityModel

/-- A JSON value. -/
inductive Json where
  | null
  | bool (b : Bool)
  | int (n : Int)
  | decimal (d : Decimal)
  | string (s : String)
  | array (items : List Json)
  | object (members : List (String × Json))
  deriving Repr, Inhabited

namespace Json

/-- Set a member: the one of that name is replaced where it stands, a new one goes to the end. -/
def setMember (name : String) (value : Json) : List (String × Json) → List (String × Json)
  | [] => [(name, value)]
  | (n, v) :: rest =>
    if n = name then (name, value) :: rest else (n, v) :: setMember name value rest

/-- The members that remain of a list in which names may repeat: of each name the last value. -/
def lastMembers (members : List (String × Json)) : List (String × Json) :=
  members.foldl (fun kept m => setMember m.1 m.2 kept) []

/-- The member of that name. -/
def member? (v : Json) (name : String) : Option Json :=
  match v with
  | .object members => members.lookup name
  | _ => none

/-- An object without the members whose value is absent. -/
def ofMembers (members : List (String × Option Json)) : Json :=
  .object (members.filterMap fun m => m.2.map (Prod.mk m.1))

mutual

/-- No object of the value names a member twice. -/
def Distinct : Json → Prop
  | .array items => DistinctItems items
  | .object members => (members.map Prod.fst).Nodup ∧ DistinctMembers members
  | .null | .bool _ | .int _ | .decimal _ | .string _ => True

/-- No object of the items names a member twice. -/
def DistinctItems : List Json → Prop
  | [] => True
  | v :: rest => v.Distinct ∧ DistinctItems rest

/-- No object of the members' values names a member twice. -/
def DistinctMembers : List (String × Json) → Prop
  | [] => True
  | (_, v) :: rest => v.Distinct ∧ DistinctMembers rest

end

theorem setMember_of_new {name : String} {value : Json} {members : List (String × Json)}
    (h : ∀ m ∈ members, m.1 ≠ name) : setMember name value members = members ++ [(name, value)] := by
  induction members with
  | nil => rfl
  | cons m rest ih =>
    obtain ⟨n, v⟩ := m
    simp only [List.mem_cons, forall_eq_or_imp] at h
    simp [setMember, h.1, ih h.2]

/-- Members with distinct names are all kept, in their order. -/
theorem lastMembers_of_distinct {members : List (String × Json)}
    (h : (members.map Prod.fst).Nodup) : lastMembers members = members := by
  suffices ∀ kept, (∀ m ∈ kept, ∀ n ∈ members, m.1 ≠ n.1) →
      members.foldl (fun kept m => setMember m.1 m.2 kept) kept = kept ++ members by
    simpa [lastMembers] using this [] (by simp)
  induction members with
  | nil => simp
  | cons m rest ih =>
    intro kept hk
    simp only [List.map_cons, List.nodup_cons, List.mem_map, not_exists, not_and] at h
    rw [List.foldl_cons, setMember_of_new (fun k hm => hk k hm m (by simp)), ih h.2]
    · simp
    · intro k hm n hn
      rcases List.mem_append.1 hm with hm | hm
      · exact hk k hm n (by simp [hn])
      · simp only [List.mem_singleton] at hm
        subst hm
        exact fun e => h.1 n hn e.symm

end Json

end EntityModel
