import TokenInventory.Proofs.Json.Record
import TokenInventory.Token.Record

/-!
# Reading tokens and users that were written

Owners, users and tokens are read back from the objects they are written as, and these objects are
whole.
-/

namespace TokenInventory

namespace Owner

theorem ofJson?_toJson (owner : Owner) : ofJson? owner.toJson = some owner := by
  have hfields : owner.toJson.fields? ["user_id", "resolver", "realm"] = _ :=
    Json.fields?_obj (by decide) rfl
  rw [ofJson?, hfields]
  rfl

theorem whole_toJson (owner : Owner) : owner.toJson.Whole := by
  refine .obj ?_
  simp only [List.forall_mem_cons, List.not_mem_nil, false_implies, implies_true, and_true]
  exact ⟨.str _, .str _, .str _⟩

end Owner

namespace User

theorem ofJson?_toJson (user : User) : ofJson? user.toJson = some user := by
  have hfields : user.toJson.fields? fieldNames = _ := Json.fields?_obj (by decide) rfl
  rw [ofJson?, hfields]
  simp only [List.map_cons, List.map_nil, Json.required, Json.withDefault, Json.text?,
    Json.textMap?_ofTextMap, Option.bind_eq_bind, Option.bind_some]
  rfl

theorem whole_toJson (user : User) : user.toJson.Whole := by
  refine .obj ?_
  simp only [List.forall_mem_cons, List.not_mem_nil, false_implies, implies_true, and_true]
  exact ⟨.str _, .str _, .str _, .str _, .str _, .str _, Json.whole_ofTextMap _⟩

end User

namespace Token

theorem ofJson?_toJson (token : Token) : ofJson? token.toJson = some token := by
  have hfields : token.toJson.fields? fieldNames = _ := Json.fields?_obj (by decide) rfl
  have howner := Json.nullable?_ofOption Owner.ofJson?_toJson (fun _ => Json.noConfusion)
    token.owner
  rw [ofJson?, hfields]
  dsimp only [List.map]
  rw [Option.bind_eq_bind, Option.bind_some]
  simp only [Json.required, Json.withDefault, Json.text?, Json.flag?,
    Json.int64?_ofInt64, Json.list?_ofTexts, Json.textMap?_ofTextMap, howner,
    Option.bind_eq_bind, Option.bind_some]
  rfl

theorem whole_toJson (token : Token) : token.toJson.Whole := by
  refine .obj ?_
  simp only [List.forall_mem_cons, List.not_mem_nil, false_implies, implies_true, and_true]
  exact ⟨.str _, .str _, .str _, .bool _, .bool _, .bool _, Json.whole_ofInt64 _,
    Json.whole_ofInt64 _, Json.whole_ofInt64 _, Json.whole_ofInt64 _, .str _, .str _,
    Json.whole_ofOption Owner.whole_toJson _, Json.whole_ofTexts _, Json.whole_ofTextMap _⟩

end Token

end TokenInventory
