import Restyle.Document.Basic

/-!
# Merging documents

Merging an update into a base replaces the values of its keys; where both sides hold a mapping
these are merged in turn.

* `mergeFields` — merging two mappings.
* `merge` — merging two documents, of which the update has to be a mapping.
-/

set_option autoImplicit false

namespace Restyle

namespace Document

mutual

/-- The value of a key after an update, given the value before. -/
def mergeValue (old : Option Document) : Document → Document
  | .mapping update =>
    match old with
    | some (.mapping base) => .mapping (mergeFields base update)
    | _ => .mapping update
  | value => value

/-- A mapping after an update. -/
def mergeFields (base : List (String × Document)) : List (String × Document) → List (String × Document)
  | [] => base
  | entry :: rest => mergeFields (mergeEntry base entry) rest

/-- A mapping after one entry of an update. -/
def mergeEntry (base : List (String × Document)) : String × Document → List (String × Document)
  | (key, value) => Assoc.put key (mergeValue (Assoc.get? base key) value) base

end

/-- Why two documents cannot be merged. -/
inductive MergeError where
  /-- The update is no mapping. -/
  | notEntries (kind : DocumentKind)
  /-- The base is no mapping and is asked for an entry. -/
  | notLookup (kind : DocumentKind)
  /-- The base is no mapping and is given an entry. -/
  | notAssignable (kind : DocumentKind)
  deriving DecidableEq, Repr

/-- The wording of a merge error. -/
def MergeError.message : MergeError → String
  | .notEntries kind => "'" ++ kind.name ++ "' object has no attribute 'items'"
  | .notLookup kind => "'" ++ kind.name ++ "' object has no attribute 'get'"
  | .notAssignable .list => "list indices must be integers or slices, not str"
  | .notAssignable kind => "'" ++ kind.name ++ "' object does not support item assignment"

/-- Merges an update into a base. -/
def merge (base update : Document) : Except MergeError Document :=
  match update with
  | .mapping fields =>
    match base, fields with
    | .mapping entries, fields => .ok (.mapping (mergeFields entries fields))
    | base, [] => .ok base
    | base, (_, .mapping _) :: _ => .error (.notLookup base.kind)
    | base, _ :: _ => .error (.notAssignable base.kind)
  | update => .error (.notEntries update.kind)

end Document

end Restyle
