import FrameLink.Text.Numeral
import FrameLink.Transport.Error

/-!
Addresses: a host, a colon and the number of a service there.
-/

namespace FrameLink

structure Address where
  host : String
  service : UInt16
  deriving DecidableEq, Repr

namespace Address

def noService : IoError := ⟨.invalidInput, "invalid socket address"⟩

def badService : IoError := ⟨.invalidInput, "invalid port value"⟩

/-- The last colon divides host and service. -/
def ofText (text : String) : Except IoError Address :=
  let reversed := text.toList.reverse
  match reversed.dropWhile (· ≠ ':') with
  | [] => .error noService
  | _ :: host =>
    match Numeral.unsigned? 10 65535 (reversed.takeWhile (· ≠ ':')).reverse with
    | some n => .ok ⟨String.ofList host.reverse, UInt16.ofNat n⟩
    | none => .error badService

/-- Why a text is no address. -/
def fault? (text : String) : Option IoError :=
  match ofText text with
  | .ok _ => none
  | .error e => some e

end Address

/--
Why no link to an address comes about where the network refuses for a reason. The address of the near
end, if one has to be bound, is looked at first, and an address that is none is found without the
network.
-/
def TransportError.ofRefusal (near : Option String) (addr : String) (reason : IoError) :
    TransportError :=
  match near.bind fun own => (Address.fault? own).map (own, ·) with
  | some (own, e) => .bind own e
  | none => .connect addr ((Address.fault? addr).getD reason)

end FrameLink
