/-!
# Bearer tokens

A client proves who it is by a token in a header. A header holds no control characters but the
tab.

* `bearer?` -- the header that carries a token.
-/

namespace RealtimeChat

/-- Whether a text may stand in a header. -/
def isHeaderText (s : String) : Bool :=
  s.toList.all (fun c => c = '\t' || (0x20 ≤ c.toNat && c.toNat ≠ 0x7F))

/-- The header that carries a token; absent if the token cannot stand in one. -/
def bearer? (token : String) : Option String :=
  if isHeaderText token then some ("Bearer " ++ token) else none

end RealtimeChat
