import RecordStore.Query.Plan

/-!
Pages of answers.  A page that fetched one row more than it shows names the token of the next page.
-/
namespace RecordStore

structure Page where
  keys : List Key
  nextToken : Option String
deriving DecidableEq, Repr

namespace Page

def empty : Page := ⟨[], none⟩

/-- The sum of two words, or the largest word where it does not fit. -/
def addSaturating (a b : UInt64) : UInt64 :=
  if a.toNat + b.toNat < 0x10000000000000000 then a + b else 0xffffffffffffffff

/-- The page of fetched record numbers. -/
def ofIds (typeName : String) (ids : List UInt64) (offset : UInt64) : Option UInt64 → Page
  | some size =>
    -- the row beyond the page says that there is a next one
    if size.toNat < ids.length then
      ⟨(ids.take size.toNat).map (⟨typeName, ·⟩),
        some (Token.encode (addSaturating offset size))⟩
    else ⟨ids.map (⟨typeName, ·⟩), none⟩
  | none => ⟨ids.map (⟨typeName, ·⟩), none⟩

end Page

end RecordStore
