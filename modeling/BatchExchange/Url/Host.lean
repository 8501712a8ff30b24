import BatchExchange.Url.Address
import BatchExchange.Url.Domain
import BatchExchange.Url.Percent

/-!
# Hosts

Which texts name a host.  In brackets stands a grouped address.  A special scheme takes a domain, or a
dotted number where the domain ends in one; any other scheme takes what has none of a few characters.
-/

namespace BatchExchange.Url.Host

/-- The text between brackets, if the host opens one: `some none` if it is not closed. -/
def bracketed? (t : Text) : Option (Option Text) :=
  (after? ['['] t).map (before? [']'])

/-- Whether a text is a host where names are taken as they are. -/
def isOpaque (t : Text) : Bool :=
  match bracketed? t with
  | some inner => inner.any Address.isGrouped
  | none => t.all fun c => c ∉ "\x00\t\n\r #/:<>?@[\\]^|".toList

/-- The domain that a text names. -/
def domain? (t : Text) : Option Text := Domain.plain? (Percent.decode (Utf8.encode t))

/-- Whether a text is a host where names are domains. -/
def isDomain (t : Text) : Bool :=
  match bracketed? t with
  | some inner => inner.any Address.isGrouped
  | none => (domain? t).any fun domain =>
    domain ≠ [] && (!Address.isDotted domain || Address.isDottedAddress domain)

/-- Whether a text names the host that a file without a host is on. -/
def isLocal (t : Text) : Bool := domain? t = some "localhost".toList

end BatchExchange.Url.Host
