import Mathlib.Data.List.Zip

/-! Two queues that meet. What is offered waits until it is requested, and a request waits until
something is offered; the two queues are served from their fronts, so that the first offer meets
the first request, the second offer the second request, and so on. -/

namespace CTaps.Lib

variable {α β : Type}

structure Rendezvous (α β : Type) where
  offers : List α := []
  requests : List β := []
  met : List (α × β) := []

namespace Rendezvous

def offer (a : α) (r : Rendezvous α β) : Rendezvous α β :=
  match r.requests with
  | [] => { r with offers := r.offers ++ [a] }
  | b :: bs => { r with requests := bs, met := r.met ++ [(a, b)] }

def request (b : β) (r : Rendezvous α β) : Rendezvous α β :=
  match r.offers with
  | [] => { r with requests := r.requests ++ [b] }
  | a :: as => { r with offers := as, met := r.met ++ [(a, b)] }

def swap (r : Rendezvous α β) : Rendezvous β α :=
  { offers := r.requests, requests := r.offers, met := r.met.map Prod.swap }

theorem request_eq_swap (b : β) (r : Rendezvous α β) : r.request b = (r.swap.offer b).swap := by
  unfold request offer swap
  cases r.offers <;> simp

end Rendezvous

structure Pairs (as : List α) (bs : List β) (r : Rendezvous α β) : Prop where
  offers_eq : r.offers = as.drop bs.length
  requests_eq : r.requests = bs.drop as.length
  met_eq : r.met = as.zip bs

theorem pairs_nil : Pairs [] [] ({} : Rendezvous α β) := ⟨rfl, rfl, rfl⟩

theorem zip_append_left (as as' : List α) {bs : List β} (h : bs.length ≤ as.length) :
    (as ++ as').zip bs = as.zip bs := by
  have htake : (as.take bs.length).length = bs.length := List.length_take_of_le h
  have hzip (rest : List α) : (as.take bs.length ++ rest).zip bs = (as.take bs.length).zip bs := by
    have hsplit : (as.take bs.length ++ rest).zip (bs ++ []) =
        (as.take bs.length).zip bs ++ rest.zip [] := List.zip_append htake
    simpa using hsplit
  calc (as ++ as').zip bs
      = (as.take bs.length ++ (as.drop bs.length ++ as')).zip bs := by
        rw [← List.append_assoc, List.take_append_drop]
    _ = (as.take bs.length).zip bs := hzip _
    _ = (as.take bs.length ++ as.drop bs.length).zip bs := (hzip _).symm
    _ = as.zip bs := by rw [List.take_append_drop]

theorem zip_append_right {as : List α} (bs bs' : List β) (h : as.length ≤ bs.length) :
    as.zip (bs ++ bs') = as.zip bs := by
  have hswap := zip_append_left bs bs' h
  rw [← List.zip_swap, hswap, List.zip_swap]

theorem lt_length_of_drop {n : Nat} {b : β} {bs rest : List β} (h : bs.drop n = b :: rest) :
    n < bs.length := by
  by_contra hle
  rw [List.drop_of_length_le (Nat.le_of_not_lt hle)] at h
  exact List.cons_ne_nil _ _ h.symm

theorem zip_append_of_drop {as : List α} {bs : List β} {b : β} {rest : List β} (a : α)
    (h : bs.drop as.length = b :: rest) : (as ++ [a]).zip bs = as.zip bs ++ [(a, b)] := by
  have hlt := lt_length_of_drop h
  have htake : as.length = (bs.take as.length).length := (List.length_take_of_le (Nat.le_of_lt hlt)).symm
  have hsplit : bs = bs.take as.length ++ b :: rest := by rw [← h, List.take_append_drop]
  have hfront : as.zip bs = as.zip (bs.take as.length) := by
    rw [hsplit, zip_append_right _ _ (Nat.le_of_eq htake), ← hsplit]
  rw [hfront, hsplit, List.zip_append htake, ← hsplit]
  rfl

theorem map_fst_zip_eq_take (as : List α) (bs : List β) :
    (as.zip bs).map Prod.fst = as.take bs.length := by
  induction as generalizing bs with
  | nil => simp
  | cons a as ih =>
    cases bs with
    | nil => simp
    | cons b bs => simp [ih]

namespace Pairs

variable {as : List α} {bs : List β} {r : Rendezvous α β}

theorem offer (h : Pairs as bs r) (a : α) : Pairs (as ++ [a]) bs (r.offer a) := by
  have hrequests := h.requests_eq
  unfold Rendezvous.offer
  split
  · next hnil =>
    have hle : bs.length ≤ as.length := List.drop_eq_nil_iff.mp (hrequests.symm.trans hnil)
    constructor
    · show r.offers ++ [a] = _
      rw [h.offers_eq, List.drop_append_of_le_length hle]
    · show r.requests = _
      rw [hnil, List.drop_of_length_le]
      simpa using Nat.le_succ_of_le hle
    · show r.met = _
      rw [h.met_eq, zip_append_left as [a] hle]
  · next b rest hcons =>
    have hdrop : bs.drop as.length = b :: rest := hrequests.symm.trans hcons
    have hlt := lt_length_of_drop hdrop
    constructor
    · show r.offers = _
      rw [h.offers_eq, List.drop_of_length_le (Nat.le_of_lt hlt), List.drop_of_length_le]
      rw [List.length_append]
      exact hlt
    · show rest = _
      rw [List.length_append, List.length_singleton, ← List.tail_drop, hdrop, List.tail_cons]
    · show r.met ++ [(a, b)] = _
      rw [h.met_eq, zip_append_of_drop a hdrop]

theorem swap (h : Pairs as bs r) : Pairs bs as r.swap := by
  refine ⟨h.requests_eq, h.offers_eq, ?_⟩
  show r.met.map Prod.swap = _
  rw [h.met_eq, List.zip_swap]

theorem request (h : Pairs as bs r) (b : β) : Pairs as (bs ++ [b]) (r.request b) := by
  rw [Rendezvous.request_eq_swap]
  exact (h.swap.offer b).swap

theorem length_met (h : Pairs as bs r) : r.met.length = min as.length bs.length := by
  rw [h.met_eq, List.length_zip]

theorem met_append_offers (h : Pairs as bs r) : r.met.map Prod.fst ++ r.offers = as := by
  rw [h.met_eq, h.offers_eq, map_fst_zip_eq_take, List.take_append_drop]

theorem one_empty (h : Pairs as bs r) : r.offers = [] ∨ r.requests = [] := by
  rw [h.offers_eq, h.requests_eq, List.drop_eq_nil_iff, List.drop_eq_nil_iff]
  exact Nat.le_total _ _

end Pairs

end CTaps.Lib
