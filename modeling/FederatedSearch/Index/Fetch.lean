import FederatedSearch.Index.Highlight
import FederatedSearch.Index.Server

/-!
# Fetching hits

A cursor is read in windows. Each hit is looked up again when it is fetched, so a record that was
removed after an execution leaves a hit without a collection, and the hits behind it stay where
they are.

* `FederatedSearch.Server.fetch?`: a window of a cursor.
-/

namespace FederatedSearch

open Index

/-- A value of a field of a fetched hit, with its place among the fields of the record. -/
structure HitField where
  place : Nat
  name : String
  value : String
  deriving DecidableEq, Repr

/-- **A hit as it is fetched.** One whose record is gone has no collection. -/
structure FetchedHit where
  backend : Nat
  record : Nat
  collection : Option Nat
  kind : EntityKind
  title : Option String
  fields : List HitField
  deriving DecidableEq, Repr

namespace Server

/-- The values of the fields of a record, numbered from `place` on. -/
def numberFields (show' : String → String) : Nat → List FieldValue → List HitField
  | _, [] => []
  | place, f :: rest => ⟨place, f.name, show' f.value⟩ :: numberFields show' (place + 1) rest

/-- A hit with the record that it stands for. -/
def fetchHit (s : Server) (show' : String → String) (h : Hit) : FetchedHit :=
  match s.record? h.backend h.record with
  | none => ⟨h.backend, h.record, none, .record, none, []⟩
  | some r =>
    ⟨h.backend, h.record, some r.collection, r.kind, r.title?, numberFields show' 1 r.fields⟩

/-- How values are shown: as they are, or with the terms of a cursor between markers. -/
def shown (c : Cursor) : Option Markers → String → String
  | none, value => value
  | some m, value => highlight (c.stemming.map Stemmer.ofLocale) c.terms m value

/-- **A page of the cursor of a session**: `count` hits from the place `start` on, counted from
one. There is none when the server is out of reach or the session is not open. -/
def fetch? (s : Server) (session : String) (start count : Nat) (markers : Option Markers) :
    Option (List FetchedHit) :=
  if start == 0 || !s.reachable then none
  else (s.cursor? session).map fun c =>
    ((c.hits.drop (start - 1)).take count).map (s.fetchHit (shown c markers))

end Server

end FederatedSearch
