import SolidityAudit.Settings.AssignmentFile

/-!
# References between Assignments

A value of an assignment file may refer to other names: `${name}` stands for the
value under a name, and `${name:-text}` for a text where there is none. Values
are resolved in the order of the file, so a name refers to what was assigned
before it, and otherwise to the environment. What a reference stands for is not
looked at again.

## Main definitions

* `AssignmentFile.reference?`: The reference a text starts with.
* `AssignmentFile.resolve`: A text with its references resolved.
* `AssignmentFile.values`: The values of an assignment file by name.

## Theorems

* `AssignmentFile.length_reference?_lt`: A reference leaves a shorter text.
-/

namespace SolidityAudit

namespace AssignmentFile

/-- A name referred to, and what to write where it has no value. -/
structure Reference where
  name : List Char
  fallback : List Char := []
deriving DecidableEq, Repr

/-- What the name of a reference is made of. -/
def isNameChar (c : Char) : Bool :=
  c != '\x7d' && c != ':'

/-- The reference a text starts with, and what follows it. -/
def reference? : List Char → Option (Reference × List Char)
  | '$' :: '\x7b' :: r =>
    let name := r.takeWhile isNameChar
    match r.dropWhile isNameChar with
    | '\x7d' :: rest => some (⟨name, []⟩, rest)
    | ':' :: '-' :: u =>
      match u.dropWhile (· != '\x7d') with
      | _ :: rest => some (⟨name, u.takeWhile (· != '\x7d')⟩, rest)
      | [] => none
    | _ => none
  | _ => none

theorem length_reference?_lt {s rest : List Char} {x : Reference}
    (h : reference? s = some (x, rest)) : rest.length < s.length := by
  unfold reference? at h
  split at h
  next r =>
    have hr : (r.dropWhile isNameChar).length ≤ r.length :=
      (List.dropWhile_suffix isNameChar).length_le
    split at h
    next t ht =>
      simp only [Option.some.injEq, Prod.mk.injEq] at h
      obtain ⟨_, rfl⟩ := h
      rw [ht] at hr
      simp only [List.length_cons] at hr ⊢
      omega
    next u hu =>
      have hv : (u.dropWhile (· != '\x7d')).length ≤ u.length :=
        (List.dropWhile_suffix _).length_le
      split at h
      next t ht =>
        simp only [Option.some.injEq, Prod.mk.injEq] at h
        obtain ⟨_, rfl⟩ := h
        rw [hu] at hr
        rw [ht] at hv
        simp only [List.length_cons] at hr hv ⊢
        omega
      next => simp at h
    next => simp at h
  next => simp at h

/-- A text with its references resolved. -/
def resolve (value : Reference → List Char) (s : List Char) : List Char :=
  match h : reference? s with
  | some (x, rest) =>
    have := length_reference?_lt h
    value x ++ resolve value rest
  | none =>
    match s with
    | [] => []
    | c :: r => c :: resolve value r
termination_by s.length

/-- Names with the values they have been given, if any. -/
abbrev Values := List (String × Option String)

/-- Gives a name a value. A name that is already there keeps its place. -/
def Values.set (name : String) (value : Option String) : Values → Values
  | [] => [(name, value)]
  | (n, v) :: r => if n = name then (n, value) :: r else (n, v) :: Values.set name value r

/-- What a reference stands for: the value of the first list that has the name,
    and nothing for a name without a value. -/
def valueOf (known : Values) (environment : List (String × String)) (x : Reference) :
    List Char :=
  let name := String.ofList x.name
  match known.lookup name with
  | some v => (v.getD "").toList
  | none =>
    match environment.lookup name with
    | some v => v.toList
    | none => x.fallback

/-- The values of an assignment file by name, resolved in the order of the
    file. Of a name that comes twice the last value counts. -/
def values (environment : List (String × String)) (text : String) : Values :=
  (parse text.toList).foldl (fun known a =>
    known.set (String.ofList a.name)
      (a.value.map fun v => String.ofList (resolve (valueOf known environment) v))) []

end AssignmentFile

end SolidityAudit
