import SignedLedger.Operation.Content

-- Standing for the suffrage: a node asks to become a candidate.
namespace SignedLedger

structure Candidate where
  token : List UInt8
  candidate : Address
  publicKey : PublicKey
  deriving DecidableEq

namespace Candidate

def encode (f : Candidate) : List UInt8 :=
  Binary.blob f.token ++ f.candidate.encode ++ f.publicKey.bytes

def validate (f : Candidate) : Check Unit := checkToken f.token

-- Members of the suffrage cannot stand, nobody stands twice, and there are never
-- more candidates than members.
def permit (reader : Reader) (suffrage : List Address) (f : Candidate) : Check Unit := do
  let candidates ← Lookup.suffrageCandidates reader
  let wanted := candidates.length + 1
  require (!suffrage.contains f.candidate) .stateExists s!"{f.candidate} already in suffrage"
  require (!candidates.contains f.candidate) .stateExists s!"{f.candidate} already a candidate"
  require (wanted ≤ suffrage.length) .limitExceeded
    s!"{wanted} candidates would exceed suffrage size {suffrage.length}"

end Candidate
end SignedLedger
