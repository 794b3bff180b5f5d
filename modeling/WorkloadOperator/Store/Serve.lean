import WorkloadOperator.Json.MergePatch
import WorkloadOperator.Store.Basic

/-!
# How the store answers

`Store.serve` gives the answer to a request and the store after it.  Faults come
first.  A request that is refused changes nothing, and a change that is made is
in the journal.

An Instance that is being deleted vanishes with its last finalizer.
-/

namespace WorkloadOperator

namespace Store

/-- The answer to a request that meets no fault. -/
def answer (s : Store) : (r : Request) → r.Answer × Store
  | .getInstance key => (.ok (s.find? .inst key), s)
  | .get c key => (.ok (s.find? c.kind key), s)
  | .list c ns selector => (.ok (s.select c.kind ns selector), s)
  | .listRuns ns selector => (.ok (s.select .run ns selector), s)
  | .create c ns o =>
    let name := c.kind.nameOf o
    if name = "" then (.error (.invalid (c.kind.name ++ " without a name")), s)
    else if (s.find? c.kind ⟨ns, name⟩).isSome then
      (.error (.alreadyExists (c.kind.name ++ " " ++ name)), s)
    else
      let (o, s) := s.insert c.kind ns o
      (.ok o, s.record .create c.kind name)
  | .delete c key =>
    if (s.find? c.kind key).isSome then
      (.ok (), (s.drop c.kind key).record .delete c.kind key.name)
    else (.error (.notFound (c.kind.name ++ " " ++ key.name)), s)
  | .patchFinalizers key version finalizers =>
    match s.find? .inst key with
    | none => (.error (.notFound ("Instance " ++ key.name)), s)
    | some i =>
      if meantFor version i then
        let s := s.record .patch .inst key.name
        if i.isDeleting ∧ finalizers = [] then (.ok (), s.drop .inst key)
        else
          let s := s.bump
          (.ok (), s.put .inst key { i with
            metadata := { i.metadata with
              finalizers := some finalizers
              resourceVersion := some s.versionText } })
      else (.error (modified i (version.getD "")), s)
  | .patchStatus key version patch =>
    match s.find? .inst key with
    | none => (.error (.notFound ("Instance " ++ key.name)), s)
    | some i =>
      if meantFor version i then
        let before := (i.status.map Instance.Status.encode).getD .null
        match Instance.Status.decode (before.merge patch) with
        | .error e => (.error (.invalid e.message), s)
        | .ok status =>
          let s := s.bump
          let s := s.put .inst key { i with
            status := some status
            metadata := { i.metadata with resourceVersion := some s.versionText } }
          (.ok (), s.record .patch .inst key.name)
      else (.error (modified i (version.getD "")), s)

/-- The answer to a request, and the store after it. -/
def serve (s : Store) (r : Request) : r.Answer × Store :=
  match strike r.verb r.kind s.faults with
  | some (e, faults) => (.error e, { s with faults })
  | none => s.answer r

end Store

end WorkloadOperator
