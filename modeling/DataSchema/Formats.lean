import DataSchema.Address
import DataSchema.Document.Basic
import DataSchema.Text.Quoted

/-!
# Formats

A format is a named test of texts. A registry holds the formats that a schema may use; registering a
name again replaces its test.
-/

namespace DataSchema

structure Formats where
  tests : Entries (String → Bool)

namespace Formats

def empty : Formats := ⟨[]⟩

def register (formats : Formats) (name : String) (test : String → Bool) : Formats :=
  ⟨formats.tests.insert name test⟩

/-- The formats of network configuration. -/
def builtin : Formats where
  tests := [
    ("ipv4", fun text => Address.isIPv4 text.toList),
    ("ipv6", fun text => Address.isIPv6 text.toList),
    ("ip", fun text => Address.isIPv4 text.toList || Address.isIPv6 text.toList),
    ("ipv4_cidr", fun text => Address.isIPv4Range text.toList),
    ("ipv6_cidr", fun text => Address.isIPv6Range text.toList),
    ("cidr", fun text => Address.isIPv4Range text.toList || Address.isIPv6Range text.toList),
    ("mac", fun text => Address.isHardware text.toList)]

def contains (formats : Formats) (name : String) : Bool := (formats.tests.lookup name).isSome

/-- Tests a text; nothing when the format is not registered. -/
def check? (formats : Formats) (name text : String) : Option Bool :=
  (formats.tests.lookup name).map (· text)

def names (formats : Formats) : List String := Text.sorted (formats.tests.map Prod.fst)

/-- A line that lists the registered names. -/
def summary (formats : Formats) : String :=
  "FormatRegistry \x7b formats: " ++ Text.shownList formats.names ++ " \x7d"

end Formats

end DataSchema
