/-!
Objects kept for reuse. A pool starts with as many objects as it will keep, hands out the one that
has waited longest, makes a new one only when it has none, and takes an object back only while it
holds fewer than it will keep. An object that is out belongs to its holder alone.
-/
namespace EventLoop

/-- `ObjectPool`, which never holds more objects than it will keep. `made` counts the objects made
so far by its `create_fn`, and the object made next is `make made`. -/
structure Pool (α : Type) where
  idle : List α
  capacity : Nat
  made : Nat
  within : idle.length ≤ capacity

namespace Pool

variable {α : Type}

theorem length_made (capacity : Nat) (make : Nat → α) :
    ((List.range capacity).map make).length ≤ capacity :=
  Nat.le_of_eq (by rw [List.length_map, List.length_range])

theorem length_back {idle : List α} {capacity : Nat} (object : α)
    (room : idle.length < capacity) : (idle ++ [object]).length ≤ capacity := by
  rw [List.length_append, List.length_singleton]
  exact room

/-- `ObjectPool::new`: a pool that holds its full number of objects. -/
def full (capacity : Nat) (make : Nat → α) : Pool α :=
  ⟨(List.range capacity).map make, capacity, capacity, length_made capacity make⟩

/-- `ObjectPool::acquire`: hands out the object that has waited longest, or a new one. -/
def acquire (make : Nat → α) : Pool α → α × Pool α
  | ⟨object :: rest, capacity, made, within⟩ =>
    (object, ⟨rest, capacity, made, Nat.le_of_succ_le within⟩)
  | ⟨[], capacity, made, within⟩ => (make made, ⟨[], capacity, made + 1, within⟩)

/-- `PooledObject::drop`: takes an object back behind those that wait. Says whether it was kept; if
not, it is gone. -/
def release (object : α) (pool : Pool α) : Bool × Pool α :=
  if room : pool.idle.length < pool.capacity then
    (true, ⟨pool.idle ++ [object], pool.capacity, pool.made, length_back object room⟩)
  else (false, pool)

/-- `ObjectPool::available`: how many objects wait. -/
def available (pool : Pool α) : Nat := pool.idle.length

theorem available_le (pool : Pool α) : pool.available ≤ pool.capacity := pool.within

theorem idle_acquire (make : Nat → α) (pool : Pool α) :
    (pool.acquire make).2.idle = pool.idle.tail := by
  obtain ⟨idle, capacity, made, within⟩ := pool
  cases idle <;> rfl

/-- What is handed out waited in the pool or is made for it. -/
theorem acquire_source (make : Nat → α) (pool : Pool α) :
    (pool.acquire make).1 ∈ pool.idle ∨ (pool.acquire make).1 = make pool.made := by
  obtain ⟨idle, capacity, made, within⟩ := pool
  cases idle with
  | nil => exact .inr rfl
  | cons object rest => exact .inl List.mem_cons_self

theorem idle_release (object : α) (pool : Pool α) :
    (pool.release object).2.idle =
      if pool.idle.length < pool.capacity then pool.idle ++ [object] else pool.idle := by
  unfold release
  split <;> rfl

end Pool

end EventLoop
