import DesiredState.Http.Basic
import DesiredState.Load
import DesiredState.Store.Basic
import DesiredState.Text.Blank
/-!
A store behind an API server. Its objects are fetched, created and replaced at the addresses that
their keys give below the server's own; the status of an answer says what became of the request.
-/

set_option autoImplicit false
set_option relaxedAutoImplicit false

namespace DesiredState

open Http (Reply Request Transport)

structure Server where
  /-- Its address, without slashes at the end. -/
  base : String
  token : Option String
deriving DecidableEq

namespace Server

def trimSlashes (cs : List Char) : List Char := (cs.reverse.dropWhile (· == '/')).reverse

/-- The server of an address, with a token that is used unless it is blank. -/
def ofUrl (url : String) (token : Option String) : Server :=
  ⟨String.ofList (trimSlashes url.toList), (token.map Text.trim).filter (· ≠ "")⟩

def objectUrl (s : Server) (key : ResourceKey) : String := s.base ++ key.path

def collectionUrl (s : Server) (key : ResourceKey) : String := s.base ++ key.collectionPath

variable {σ : Type}

structure Response where
  status : Nat
  body : String

def ask (server : Server) (t : Transport σ) (op : Operation) (key : ResourceKey) (url : String)
    (object : Option StatefulSet) (s : σ) : Except CycleError Response × σ :=
  let (reply, s) := t ⟨op, url, server.token, object.map fun o => o.toJson.compact⟩ s
  match reply with
  | .failed detail => (.error (.transport op key (.unsent detail)), s)
  | .response status body => (.ok ⟨status, body⟩, s)

def objectOf (op : Operation) (key : ResourceKey) (r : Response) : Except CycleError StatefulSet :=
  if Http.isSuccess r.status then
    (Value.parse .json r.body).mapError fun _ =>
      .transport op key (.unparsable "error decoding response body")
  else .error (.transport op key (.refused (Http.statusText r.status) r.body))

def notFound : Nat := 404

def conflict : Nat := 409

def get (server : Server) (t : Transport σ) (ns name : String) (s : σ) :
    Answer σ (Option StatefulSet) :=
  let key := ResourceKey.statefulSet ns name
  let (answer, s) := server.ask t .get key (server.objectUrl key) none s
  let result := answer.bind fun r =>
    if r.status = notFound then .ok none else (objectOf .get key r).map some
  ⟨result, [], s⟩

/-- Sends an object to be written; `refusal` is reported when another write stands against it. -/
def write (server : Server) (t : Transport σ) (op : Operation) (key : ResourceKey) (url : String)
    (refusal : String) (o : StatefulSet) (s : σ) : Answer σ StatefulSet :=
  let (answer, s) := server.ask t op key url (some o) s
  match answer with
  | .error e => ⟨.error e, [], s⟩
  | .ok r =>
    if r.status = conflict then
      ⟨.error (.conflict key.text (.told r.body)),
        [⟨.warn, refusal, [("statefulset", key.text)]⟩], s⟩
    else ⟨objectOf op key r, [], s⟩

def create (server : Server) (t : Transport σ) (ns : String) (o : StatefulSet) (s : σ) :
    Answer σ StatefulSet :=
  let key := ResourceKey.statefulSet ns o.objectName
  server.write t .create key (server.collectionUrl key) "StatefulSet already exists" o s

def update (server : Server) (t : Transport σ) (ns : String) (o : StatefulSet) (s : σ) :
    Answer σ StatefulSet :=
  match ObjectMeta.text? (o.get StatefulSet.metadata) ObjectMeta.name with
  | none => ⟨.error .nameless, [], s⟩
  | some name =>
    let key := ResourceKey.statefulSet ns name
    server.write t .update key (server.objectUrl key)
      "Update rejected, StatefulSet was modified concurrently" o s

def asStore (server : Server) (t : Transport σ) : Store σ :=
  ⟨server.get t, server.create t, server.update t⟩

end Server

end DesiredState
