import FloatingAddress.Choices

/-!
# Hosting types

Who moves the failover address: the provider's web service, or the node itself on a local
interface.
-/

namespace FloatingAddress

/-- A way of hosting. -/
inductive Hosting
  /-- The provider routes the address. -/
  | hetzner
  /-- The node adds the address to an interface of its own. -/
  | basic
deriving DecidableEq, Repr

namespace Hosting

/-- The word for a hosting type. -/
def word : Hosting → Text
  | hetzner => "hetzner"
  | basic => "basic"

/-- The name of a hosting type. -/
def name : Hosting → Text
  | hetzner => "HETZNER"
  | basic => "BASIC"

/-- All hosting types. -/
def choices : Choices Hosting where
  title := "ConfigurerKind"
  all := [hetzner, basic]
  name := name
  word := word

end Hosting
end FloatingAddress
