import SignedLedger.State.Basic

-- The byte layout of states: parts in order, variants numbered in order of
-- declaration, decimals as their text.
namespace SignedLedger
open Binary (list option flag variant)

def Decimal.encode (a : Decimal) : List UInt8 := Binary.text a.text

def Address.encode (a : Address) : List UInt8 := Binary.text a.text

def Currency.encode (c : Currency) : List UInt8 := Binary.text c.text

def Amount.encode (a : Amount) : List UInt8 := a.currency.encode ++ a.value.encode

def Height.encode (h : Height) : List UInt8 := Binary.littleEndian 8 h.value.toNat

def Account.encode (a : Account) : List UInt8 :=
  a.address.encode ++ option AccountKeys.encode a.keys

def FeeRule.encode : FeeRule → List UInt8
  | .free => variant 0
  | .fixed receiver amount => variant 1 ++ receiver.encode ++ amount.encode
  | .proportional receiver ratio minimum maximum =>
    variant 2 ++ receiver.encode ++ ratio.encode ++ minimum.encode ++ maximum.encode

def CurrencyPolicy.encode (p : CurrencyPolicy) : List UInt8 :=
  p.minBalance.encode ++ p.fee.encode ++ option FeeRule.encode p.itemFee

def CurrencyDesign.encode (d : CurrencyDesign) : List UInt8 :=
  d.currency.encode ++ d.genesisAccount.encode ++ d.totalSupply.encode ++ d.policy.encode

def ContractStatus.encode (s : ContractStatus) : List UInt8 :=
  s.owner.encode ++ flag s.isActive ++ list Address.encode s.handlers

def DidDesign.encode (d : DidDesign) : List UInt8 := Binary.text d.method

def DidData.encode (d : DidData) : List UInt8 := d.address.encode ++ Binary.text d.did

def VerificationMethod.encode (m : VerificationMethod) : List UInt8 :=
  Binary.text m.id ++ m.publicKey.bytes

def DidDocument.encode (d : DidDocument) : List UInt8 :=
  Binary.text d.did ++ d.controller.encode ++ flag d.active ++
    list VerificationMethod.encode d.authentication

def StateValue.encode : StateValue → List UInt8
  | .account a => variant 0 ++ a.encode
  | .balance a => variant 1 ++ a.encode
  | .addBalance a => variant 2 ++ a.encode
  | .deductBalance a => variant 3 ++ a.encode
  | .currencyDesign d => variant 4 ++ d.encode
  | .contractAccount s => variant 5 ++ s.encode
  | .didDesign d => variant 6 ++ d.encode
  | .didData d => variant 7 ++ d.encode
  | .didDocument d => variant 8 ++ d.encode
  | .suffrageCandidates candidates => variant 9 ++ list Address.encode candidates

def State.encode (s : State) : List UInt8 :=
  Binary.text s.key ++ s.height.encode ++ s.value.encode ++ list Digest.bytes s.operations

def State.encodeAll (states : List State) : List UInt8 := list State.encode states

end SignedLedger
