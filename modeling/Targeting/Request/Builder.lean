import Targeting.Request

/-!
# Building requests call by call

Headers are written under their lower-case names, so that a later write under another
spelling replaces the earlier one. Asking for an empty cookie table keeps the cookies
that are there.
-/

namespace Targeting.Request

inductive Call where
  | header (name value : String)
  | host (value : String)
  | userAgent (value : String)
  | url (value : String)
  | cookie (name value : String)
  | emptyCookies
  | param (name value : String)
  | connectionAddr (value : String)
  | socketAddr (value : String)
  | tunnelAddr (value : String)
  | bid (value : String)

def withHeader (r : Request) (name value : String) : Request :=
  { r with headers := r.headers.put (Text.lowerAscii name) value }

def apply (r : Request) : Call → Request
  | .header name value => r.withHeader name value
  | .host value => r.withHeader "host" value
  | .userAgent value => r.withHeader "user-agent" value
  | .url value => { r with url := some value }
  | .cookie name value => { r with cookies := some ((r.cookies.getD []).put name value) }
  | .emptyCookies => { r with cookies := some (r.cookies.getD []) }
  | .param name value => { r with params := r.params.put name value }
  | .connectionAddr value => { r with connectionAddr := some value }
  | .socketAddr value => { r with socketAddr := some value }
  | .tunnelAddr value => { r with tunnelAddr := some value }
  | .bid value => { r with bid := some value }

def build (calls : List Call) : Request := calls.foldl apply empty

end Targeting.Request
