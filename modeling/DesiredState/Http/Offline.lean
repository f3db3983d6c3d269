import DesiredState.Http.Basic
import DesiredState.Http.Url
/-!
Requests that do not get through: some cannot be built, others find no server.
-/

set_option autoImplicit false
set_option relaxedAutoImplicit false

namespace DesiredState.Http

def isHeaderChar (c : Char) : Bool := c == '\t' || (0x20 ≤ c.toNat && c.toNat ≠ 0x7F)

/-- The words for a request that finds no server; one whose address or token cannot be used is not
even built. -/
def Request.lost (r : Request) : String :=
  let tokenFits := r.token.all (·.toList.all isHeaderChar)
  match (Address.parse? r.url).map Address.withoutUser with
  | none => "builder error"
  | some (.foreign cs) => "builder error for url (" ++ String.ofList cs ++ ")"
  | some a =>
    if !tokenFits then "builder error"
    else if a.isWeb then "error sending request for url (" ++ a.text ++ ")"
    else "builder error for url (" ++ a.text ++ ")"

def Transport.offline {σ : Type} : Transport σ := fun r s => (.failed r.lost, s)

end DesiredState.Http
