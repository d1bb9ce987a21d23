/-! Open enumerations: any number is a value, and a table names some of them. -/
namespace RouteNetlink

structure Vocabulary where
  entries : List (Nat × String)

namespace Vocabulary

def name? (vocabulary : Vocabulary) (code : Nat) : Option String :=
  vocabulary.entries.lookup code

def label (vocabulary : Vocabulary) (code : Nat) : String :=
  (vocabulary.name? code).getD (toString code)

end Vocabulary
end RouteNetlink
