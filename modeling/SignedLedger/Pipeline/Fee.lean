import SignedLedger.Operation.Basic

-- Fees. A currency's policy charges a flat fee on the total and, where it has an
-- item rule, a fee on every item as well; each operation has one payer.
namespace SignedLedger

namespace FeeRule

def validate : FeeRule → Except Fault Unit
  | .free => .ok ()
  | .fixed _ amount =>
    if amount < Decimal.zero then .error (.invariant (.negativeFee amount)) else .ok ()
  | .proportional _ ratio minimum maximum =>
    if ratio < Decimal.zero ∨ Decimal.one < ratio then .error (.invariant (.ratioOutside ratio))
    else if minimum < Decimal.zero ∨ maximum < minimum then
      .error (.invariant (.boundsCross minimum maximum))
    else .ok ()

-- A proportional fee is kept between its bounds; bounds that cross are a fault.
def charge (rule : FeeRule) (amount : Decimal) : Except Fault Decimal :=
  match rule with
  | .free => .ok Decimal.zero
  | .fixed _ fee => .ok fee
  | .proportional _ ratio minimum maximum => do
    rule.validate
    match amount.mul? ratio with
    | none => .error (.arithmetic (.fee amount))
    | some fee => .ok ((fee.larger minimum).smaller maximum)

def proportionalOf (receiver : Address) (ratio minimum maximum : Decimal) :
    Except Fault FeeRule := do
  let rule := FeeRule.proportional receiver ratio minimum maximum
  rule.validate
  return rule

def receiver? : FeeRule → Option Address
  | .free => none
  | .fixed receiver _ => some receiver
  | .proportional receiver _ _ _ => some receiver

def isFree : FeeRule → Bool
  | .free => true
  | _ => false

end FeeRule

def addFee (a b : Decimal) : Except Fault Decimal :=
  match a.add? b with
  | some sum => .ok sum
  | none => .error (.arithmetic .feeTotal)

namespace CurrencyPolicy

def validate (policy : CurrencyPolicy) : Except Fault Unit := do
  policy.fee.validate
  match policy.itemFee with
  | some rule => rule.validate
  | none => return ()

def receiver? (policy : CurrencyPolicy) : Option Address :=
  match policy.fee.receiver? with
  | some receiver => some receiver
  | none => policy.itemFee.bind FeeRule.receiver?

def itemFees (rule : FeeRule) (items : List Decimal) : Except Fault Decimal :=
  items.foldlM (fun sum item => do addFee sum (← rule.charge item)) Decimal.zero

def feeOn (policy : CurrencyPolicy) (items : List Decimal) : Except Fault Decimal := do
  let total ← items.foldlM addFee Decimal.zero
  match policy.itemFee with
  | none => policy.fee.charge total
  | some rule =>
    let fee ← itemFees rule items
    if policy.fee.isFree then return fee else addFee fee (← policy.fee.charge total)

end CurrencyPolicy

-- Proxy payer and settlement together, then settlement, then the fact's own payer.
def Operation.payer (op : Operation) (terms : FeeTerms) : Address :=
  match op.extensions.settlement, op.extensions.proxyPayer with
  | some _, some proxy => proxy
  | some sender, none => sender
  | none, _ => terms.payer

structure FeeCharge where
  payer : Address
  receiver : Option Address
  amount : Amount
  deriving DecidableEq

def chargeIn (reader : Reader) (payer : Address) (currency : Currency) (items : List Decimal) :
    Check (Option FeeCharge) := do
  let design ← Lookup.existingCurrencyDesign reader currency
  design.policy.validate
  let fee ← design.policy.feeOn items
  if fee.isZero then return none
  else return some ⟨payer, design.policy.receiver?, ⟨currency, fee⟩⟩

def chargesIn (reader : Reader) (payer : Address) : FeeBase → Check (List FeeCharge)
  | [] => .ok []
  | (currency, items) :: rest => do
    let charge ← chargeIn reader payer currency items
    let charges ← chargesIn reader payer rest
    return charge.toList ++ charges

def Operation.charges (op : Operation) (reader : Reader) : Check (List FeeCharge) :=
  match op.fact.feeTerms? with
  | none => .ok []
  | some terms => chargesIn reader (op.payer terms) terms.base

def checkCharge (reader : Reader) (charge : FeeCharge) : Check Unit := do
  let balance ← Lookup.existingBalance reader charge.payer charge.amount.currency
  require (!decide (balance < charge.amount.value)) .insufficientBalance
    s!"{charge.payer} cannot pay fee {charge.amount}: balance {balance}"

def Operation.checkAffordable (op : Operation) (reader : Reader) : Check Unit := do
  let charges ← op.charges reader
  charges.forM (checkCharge reader)

def feeEffects (charge : FeeCharge) : List MergeValue :=
  .debit charge.payer charge.amount ::
    match charge.receiver with
    | none => []
    | some receiver => if receiver = charge.payer then [] else [.credit receiver charge.amount]

def settleCharge (reader : Reader) (charge : FeeCharge) : Check (List MergeValue) := do
  let _ ← Lookup.existingBalance reader charge.payer charge.amount.currency
  match charge.receiver with
  | none => return feeEffects charge
  | some receiver =>
    let _ ← Lookup.existingAccount reader receiver
    return feeEffects charge

def settleCharges (reader : Reader) : List FeeCharge → Check (List MergeValue)
  | [] => .ok []
  | charge :: rest => do
    let values ← settleCharge reader charge
    return values ++ (← settleCharges reader rest)

def Operation.feeValues (op : Operation) (reader : Reader) : Check (List MergeValue) := do
  settleCharges reader (← op.charges reader)

end SignedLedger
