import Mathlib.Data.List.Basic
import TokenInventory.Action.Listing

/-!
# Labels of owners

If no value has a single quote in it, a row of values shows where each of them ends: a row is not
the beginning of another row of as many values (`quotedRow_append_inj`). So the label of an owner
in a summary, a row that is as long for all owners, stands for one user of the directory and for
nobody else, and the label of tokens without a known owner stands for no user
(`Token.ownerLabel_eq_iff`).
-/

namespace TokenInventory

/-! ## Rows -/

theorem toList_quotedRow_cons (value : String) (values : List String) :
    (quotedRow (value :: values)).toList = '\'' :: (value.toList ++ '\'' ::
      if values = [] then [] else ',' :: (quotedRow values).toList) := by
  cases values <;> simp [quotedRow, Text.joinWith]

/-- Where a row ends is seen from the row. -/
theorem quotedRow_append_inj {values values' : List String} {rest rest' : List Char}
    (hlength : values.length = values'.length) (hvalues : ∀ s ∈ values, '\'' ∉ s.toList)
    (hvalues' : ∀ s ∈ values', '\'' ∉ s.toList)
    (h : (quotedRow values).toList ++ rest = (quotedRow values').toList ++ rest') :
    values = values' ∧ rest = rest' := by
  induction values generalizing values' with
  | nil =>
    obtain rfl := List.eq_nil_of_length_eq_zero hlength.symm
    exact ⟨rfl, List.append_cancel_left h⟩
  | cons value values ih =>
    cases values' with
    | nil => cases hlength
    | cons value' values' =>
      have hlength' : values.length = values'.length := Nat.succ.inj hlength
      rw [List.forall_mem_cons] at hvalues hvalues'
      rw [toList_quotedRow_cons, toList_quotedRow_cons, List.cons_append, List.cons_append,
        List.append_assoc, List.append_assoc, List.cons_append, List.cons_append] at h
      obtain ⟨hvalue, hrest⟩ := Text.append_separator_inj hvalues.1 hvalues'.1 (List.cons.inj h).2
      obtain rfl := String.toList_inj.1 hvalue
      by_cases hnil : values = []
      · obtain rfl := hnil
        obtain rfl := List.eq_nil_of_length_eq_zero hlength'.symm
        exact ⟨rfl, hrest⟩
      · have hnil' : values' ≠ [] := by
          rintro rfl
          exact hnil (List.eq_nil_of_length_eq_zero hlength')
        rw [if_neg hnil, if_neg hnil'] at hrest
        obtain ⟨rfl, rfl⟩ := ih hlength' hvalues.2 hvalues'.2 (List.cons.inj hrest).2
        exact ⟨rfl, rfl⟩

/-! ## Users -/

namespace User

/-- What an owner has to name to mean the user. -/
def identity (user : User) : Owner :=
  ⟨user.uid, user.resolver, user.realm⟩

/-- Whether nothing that is known of a user has a single quote in it. -/
structure IsUnquoted (user : User) : Prop where
  field : ∀ s ∈ [user.username, user.givenName, user.surname, user.uid, user.resolver, user.realm],
    '\'' ∉ s.toList
  further : ∀ name value, user.attributes.get? name = some value → '\'' ∉ value.toList

theorem isNamedBy_iff {user : User} {owner : Owner} :
    user.isNamedBy owner = true ↔ owner = user.identity := by
  obtain ⟨userId, resolver, realm⟩ := owner
  rw [isNamedBy, Bool.and_eq_true, Bool.and_eq_true, beq_iff_eq, beq_iff_eq, beq_iff_eq, identity,
    Owner.mk.injEq, and_assoc, eq_comm, eq_comm (a := user.resolver), eq_comm (a := user.realm)]

theorem identity_of_resolve? {users : List User} {owner : Owner} {user : User}
    (h : resolve? users owner = some user) : user ∈ users ∧ owner = user.identity := by
  have hnamed := List.find?_some h
  exact ⟨List.mem_of_find?_eq_some h, isNamedBy_iff.1 hnamed⟩

theorem IsUnquoted.info? {user : User} (h : user.IsUnquoted) {name value : String}
    (hinfo : user.info? name = some value) : '\'' ∉ value.toList := by
  unfold User.info? at hinfo
  split at hinfo
  on_goal 6 => exact h.further _ _ hinfo
  all_goals
    cases hinfo
    exact h.field _ (by simp)

/-- The values of a user that make up a row have no quotes either. -/
theorem IsUnquoted.userColumns {user : User} (h : user.IsUnquoted) (attributes : List String) :
    ∀ s ∈ userColumns user attributes, '\'' ∉ s.toList := by
  refine List.forall_mem_append.2 ⟨h.field, List.forall_mem_map.2 fun name _ => ?_⟩
  cases hinfo : user.info? name with
  | none => simp
  | some value => exact h.info? hinfo

theorem length_userColumns (user : User) (attributes : List String) :
    (TokenInventory.userColumns user attributes).length = 6 + attributes.length := by
  rw [TokenInventory.userColumns, List.length_append, List.length_map]
  rfl

end User

/-! ## Labels -/

namespace Token

/-- What identifies the user that a token belongs to, if it has an owner in the directory. -/
def knownOwner? (store : Store) (token : Token) : Option Owner :=
  (token.owner.bind store.resolve?).map User.identity

/-- What a token is counted under in a summary. -/
def ownerLabel (store : Store) (attributes : List String) (token : Token) : String :=
  TokenInventory.ownerLabel attributes (.ofToken store token)

variable {store : Store} {token token' : Token} {attributes : List String}

theorem knownOwner?_eq_none (h : token.knownOwner? store = none) (attributes : List String) :
    token.ownerLabel store attributes = noOwnerMark := by
  rw [knownOwner?, Option.map_eq_none_iff] at h
  unfold ownerLabel Ownership.ofToken
  cases howner : token.owner with
  | none => rfl
  | some owner =>
    rw [howner, Option.bind_some] at h
    simp only [h]
    rfl

/-- The user that a token with a known owner belongs to, and its label. -/
theorem knownOwner?_eq_some {identity : Owner} (h : token.knownOwner? store = some identity) :
    ∃ user, store.resolve? identity = some user ∧ user.identity = identity ∧
      ∀ attributes, token.ownerLabel store attributes =
        quotedRow (userColumns user attributes) := by
  obtain ⟨user, hbind, hidentity⟩ := Option.map_eq_some_iff.1 h
  obtain ⟨owner, howner, hresolve⟩ := Option.bind_eq_some_iff.1 hbind
  obtain ⟨-, rfl⟩ := User.identity_of_resolve? hresolve
  refine ⟨user, hidentity ▸ hresolve, hidentity, fun attributes => ?_⟩
  simp only [ownerLabel, Ownership.ofToken, howner, hresolve]
  rfl

/-- Labels show whether two tokens belong to the same user, even if they are followed by something
else. -/
theorem ownerLabel_append_inj (hplain : ∀ user ∈ store.users, user.IsUnquoted)
    {rest rest' : List Char}
    (h : (token.ownerLabel store attributes).toList ++ rest =
      (token'.ownerLabel store attributes).toList ++ rest') :
    token.knownOwner? store = token'.knownOwner? store ∧ rest = rest' := by
  cases howner : token.knownOwner? store with
  | none =>
    rw [knownOwner?_eq_none howner] at h
    cases howner' : token'.knownOwner? store with
    | none =>
      rw [knownOwner?_eq_none howner'] at h
      exact ⟨rfl, List.append_cancel_left h⟩
    | some identity' =>
      obtain ⟨user', -, -, hlabel'⟩ := knownOwner?_eq_some howner'
      rw [hlabel', userColumns, List.cons_append, toList_quotedRow_cons] at h
      cases h
  | some identity =>
    obtain ⟨user, hresolve, rfl, hlabel⟩ := knownOwner?_eq_some howner
    cases howner' : token'.knownOwner? store with
    | none =>
      rw [knownOwner?_eq_none howner', hlabel, userColumns, List.cons_append,
        toList_quotedRow_cons] at h
      cases h
    | some identity' =>
      obtain ⟨user', hresolve', rfl, hlabel'⟩ := knownOwner?_eq_some howner'
      have hunquoted {user : User} (h : store.resolve? user.identity = some user) :=
        (hplain user (User.identity_of_resolve? h).1).userColumns attributes
      rw [hlabel, hlabel'] at h
      obtain ⟨hcolumns, hrest⟩ := quotedRow_append_inj
        (by rw [User.length_userColumns, User.length_userColumns]) (hunquoted hresolve)
        (hunquoted hresolve') h
      refine ⟨?_, hrest⟩
      simp only [userColumns, List.cons_append, List.cons.injEq] at hcolumns
      obtain ⟨-, -, -, huid, hresolver, hrealm, -⟩ := hcolumns
      rw [User.identity, User.identity, huid, hresolver, hrealm]

/-- Two tokens have the same label exactly if they belong to the same user, or both to nobody who is
known. -/
theorem ownerLabel_eq_iff (hplain : ∀ user ∈ store.users, user.IsUnquoted) :
    token.ownerLabel store attributes = token'.ownerLabel store attributes ↔
      token.knownOwner? store = token'.knownOwner? store := by
  refine ⟨fun h => (ownerLabel_append_inj hplain (congrArg (·.toList ++ []) h)).1, fun h => ?_⟩
  cases howner : token.knownOwner? store with
  | none => rw [knownOwner?_eq_none howner, knownOwner?_eq_none (h ▸ howner)]
  | some identity =>
    obtain ⟨user, hresolve, -, hlabel⟩ := knownOwner?_eq_some howner
    obtain ⟨user', hresolve', -, hlabel'⟩ := knownOwner?_eq_some (h ▸ howner)
    rw [hresolve] at hresolve'
    cases hresolve'
    rw [hlabel, hlabel']

end Token

end TokenInventory
