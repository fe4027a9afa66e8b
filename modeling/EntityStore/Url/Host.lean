import EntityStore.Domain.Name
import EntityStore.Url.Address
import EntityStore.Url.Fault

/-!
# Hosts

The host of a URL is an address in brackets or a name. Where the scheme asks for hosts of the
network, the name is a domain name or another address; otherwise any characters that have no meaning
in URLs will do. -/

namespace EntityStore.Url

/-- The bytes of a text in which a percent sign and two hexadecimal digits write a byte. -/
def percentDecoded : List Char → List UInt8
  | '%' :: high :: low :: rest =>
    match Text.hexValue? high, Text.hexValue? low with
    | some h, some l => UInt8.ofNat (16 * h + l) :: percentDecoded rest
    | _, _ => '%'.toNat.toUInt8 :: percentDecoded (high :: low :: rest)
  | c :: rest => String.utf8EncodeChar c ++ percentDecoded rest
  | [] => []

/-- Characters that no host holds. -/
def isForbidden (c : Char) : Bool :=
  c.toNat == 0 || " #/:<>?@[\\]^|".toList.contains c

/-- A domain name, or an address when its last part is a number. -/
def checkDomain (host : List Char) : Except UrlFault Unit :=
  let text? := String.fromUTF8? ⟨(percentDecoded host).toArray⟩
  match text?.bind fun text => Domain.ofText? text.toList with
  | none => .error .hostName
  | some labels =>
    let parts := labels.map fun label => label.written.map Char.ofNat
    if parts == [[]] then .error .emptyHost
    else if endsInNumber parts && !isIpv4 parts then .error .ipv4Address
    else .ok ()

/-- A host; in the network it is a domain name. -/
def checkHost (network : Bool) (host : List Char) : Except UrlFault Unit :=
  match host with
  | '[' :: inner =>
    if inner.getLast? == some ']' && isIpv6 (String.ofList inner.dropLast) then .ok ()
    else .error .ipv6Address
  | host =>
    if network then checkDomain host
    else if host.any isForbidden then .error .hostCharacter
    else .ok ()

end EntityStore.Url
