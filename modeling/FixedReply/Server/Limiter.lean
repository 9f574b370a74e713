namespace FixedReply

/-- The limiter is not the server's own. This is what is assumed of it: never are more tokens held than
its capacity (`Sound`), and of those who wait the first has the next token (`release_first`). -/
structure Limiter where
  capacity : Nat
  held : Nat := 0
  queue : List Nat := []
  deriving DecidableEq, Repr

namespace Limiter

def hasFree (limiter : Limiter) : Bool := limiter.held < limiter.capacity

def take (limiter : Limiter) : Limiter := { limiter with held := limiter.held + 1 }

def enqueue (limiter : Limiter) (who : Nat) : Limiter :=
  { limiter with queue := limiter.queue ++ [who] }

/-- Gives a token back. The first in the queue has it next. -/
def release (limiter : Limiter) : Option Nat × Limiter :=
  match limiter.queue with
  | [] => (none, { limiter with held := limiter.held - 1 })
  | who :: rest => (some who, { limiter with queue := rest })

variable {limiter : Limiter} {who : Nat} {rest : List Nat}

theorem hasFree_iff : limiter.hasFree ↔ limiter.held < limiter.capacity := by
  simp [hasFree]

structure Sound (limiter : Limiter) : Prop where
  bounded : limiter.held ≤ limiter.capacity
  busy : limiter.queue ≠ [] → limiter.capacity ≤ limiter.held

theorem Sound.take (h : limiter.Sound) (hf : limiter.hasFree) : limiter.take.Sound := by
  have hlt : limiter.held < limiter.capacity := hasFree_iff.mp hf
  exact ⟨hlt, fun hq => absurd (h.busy hq) (Nat.not_le.mpr hlt)⟩

theorem Sound.enqueue (h : limiter.Sound) (hf : ¬ limiter.hasFree) (who : Nat) :
    (limiter.enqueue who).Sound :=
  ⟨h.bounded, fun _ => Nat.not_lt.mp (mt hasFree_iff.mpr hf)⟩

theorem release_none (h : limiter.queue = []) :
    limiter.release = (none, { limiter with held := limiter.held - 1 }) := by
  simp [release, h]

/-- First come, first served. -/
theorem release_first (h : limiter.queue = who :: rest) :
    limiter.release = (some who, { limiter with queue := rest }) := by
  simp [release, h]

theorem Sound.release (h : limiter.Sound) : limiter.release.2.Sound := by
  cases hq : limiter.queue with
  | nil =>
    rw [release_none hq]
    exact ⟨Nat.le_trans (Nat.sub_le _ _) h.bounded, fun hne => absurd hq hne⟩
  | cons who rest =>
    rw [release_first hq]
    exact ⟨h.bounded, fun _ => h.busy (by simp [hq])⟩

theorem capacity_release (limiter : Limiter) : limiter.release.2.capacity = limiter.capacity := by
  cases hq : limiter.queue with
  | nil => rw [release_none hq]
  | cons who rest => rw [release_first hq]

end Limiter

end FixedReply
