import SignedLedger.Identity.Currency
import SignedLedger.Identity.Address
import SignedLedger.Text.Cut

-- Where values are stored. Each family of keys has its own ending, so the
-- ending alone tells the family.
namespace SignedLedger.StateKey

def account (address : Address) : String := address.text ++ ":account"

def balance (address : Address) (currency : Currency) : String :=
  address.text ++ "-" ++ currency.text ++ ":balance"

def currencyDesign (currency : Currency) : String := currency.text ++ ":currencydesign"

def contractAccount (address : Address) : String := address.text ++ ":contractaccount"

def didDesign (contract : Address) : String := contract.text ++ ":diddesign"

def didData (contract address : Address) : String :=
  contract.text ++ ":" ++ address.text ++ ":diddata"

def didDocument (contract : Address) (did : String) : String :=
  contract.text ++ ":" ++ did ++ ":diddocument"

def suffrageCandidates : String := "suffrage:candidates"

def balanceEnding : List Char := ":balance".toList

def isBalance (key : String) : Bool := balanceEnding.isSuffixOf key.toList

-- The currency stands behind the last dash; neither part may hold one.
def readBalance? (key : String) : Option (Address × Currency) :=
  match Text.dropEnding? balanceEnding key.toList with
  | none => none
  | some body =>
    match Text.cutLast? ['-'] body with
    | none => none
    | some (address, currency) =>
      match Address.ofString (String.ofList address), Currency.ofString (String.ofList currency) with
      | .ok a, .ok c => some (a, c)
      | _, _ => none

end SignedLedger.StateKey
