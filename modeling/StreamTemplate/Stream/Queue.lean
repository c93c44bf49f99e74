/-!
# Queues

Members leave a queue in the order in which they came. Those that came last are kept apart, the last
one first, so that taking one in costs the same however many wait; `Queue.toList` is the queue as it
will be served.
-/

namespace StreamTemplate

/-- A queue, which serves first what came first. -/
structure Queue (α : Type) where
  /-- Members in the order in which they are served. -/
  front : List α := []
  /-- Members that come after those in front, the last first. -/
  back : List α := []

namespace Queue

variable {α : Type}

/-- The members in the order in which they are served. -/
def toList (q : Queue α) : List α :=
  match q.back with
  | [] => q.front
  | back => q.front ++ back.reverse

/-- A queue of members in the order in which they are served. -/
def ofList (members : List α) : Queue α :=
  { front := members }

/-- Adds a member at the end. -/
def push (q : Queue α) (a : α) : Queue α :=
  { q with back := a :: q.back }

/-- Adds members at the end. -/
def append (q : Queue α) (members : List α) : Queue α :=
  { q with back := members.reverseAux q.back }

/-- The number of members. -/
def size (q : Queue α) : Nat :=
  q.front.length + q.back.length

/-- The member that is served next, and the queue without it. -/
def next? (q : Queue α) : Option (α × Queue α) :=
  match q.front with
  | a :: front => some (a, { q with front })
  | [] =>
    match q.back.reverse with
    | a :: front => some (a, ofList front)
    | [] => none

theorem toList_eq (q : Queue α) : q.toList = q.front ++ q.back.reverse := by
  unfold toList
  split <;> simp_all

@[simp]
theorem toList_ofList (members : List α) : (ofList members).toList = members := rfl

@[simp]
theorem toList_push (q : Queue α) (a : α) : (q.push a).toList = q.toList ++ [a] := by
  simp [toList_eq, push]

@[simp]
theorem toList_append (q : Queue α) (members : List α) :
    (q.append members).toList = q.toList ++ members := by
  simp [toList_eq, append, List.reverseAux_eq]

theorem length_toList (q : Queue α) : q.toList.length = q.size := by
  simp [toList_eq, size]

/-- A queue serves the head of its list. -/
theorem toList_of_next? {q rest : Queue α} {a : α} (h : q.next? = some (a, rest)) :
    q.toList = a :: rest.toList := by
  unfold next? at h
  split at h
  · next hfront =>
    obtain ⟨rfl, rfl⟩ := by simpa using h
    simp [toList_eq, hfront]
  · next hfront =>
    split at h
    · next hback =>
      obtain ⟨rfl, rfl⟩ := by simpa using h
      simp [toList_eq, hfront, hback, ofList]
    · simp at h

end Queue

end StreamTemplate
