import TokenGate.Os.Network
import TokenGate.Proofs.Basic
/-!
Listeners that are opened one after another, on a machine that may refuse any of them. Closing what
has been opened leads back to where it began.
-/
namespace TokenGate.Os

open Net (SocketAddr)

namespace Network

/-- No address is given to two listeners. -/
def Exclusive (net : Network) : Prop :=
  ∀ inUse addr bound, net.grant inUse addr = .ok bound → bound ∉ inUse

/-- Listeners are opened at addresses, one after another; each gets an address. -/
inductive Opens : Network → List SocketAddr → List SocketAddr → Network → Prop
  | nil : Opens net [] [] net
  | cons (h : net.bind addr = .ok (bound, net₁)) (rest : Opens net₁ addrs bounds net') :
      Opens net (addr :: addrs) (bound :: bounds) net'

variable {net net' net₁ : Network} {addr bound : SocketAddr} {addrs bounds xs ys : List SocketAddr}

theorem bind_eq (h : net.bind addr = .ok (bound, net')) :
    net.grant net.inUse addr = .ok bound ∧ net' = { net with inUse := bound :: net.inUse } := by
  obtain ⟨a, ha, h⟩ := bind_eq_ok.1 h
  cases h
  exact ⟨ha, rfl⟩

theorem Exclusive.bind (h : net.Exclusive) (hb : net.bind addr = .ok (bound, net')) :
    net'.Exclusive := by
  obtain ⟨-, rfl⟩ := bind_eq hb
  exact h

theorem release_bind (hb : net.bind addr = .ok (bound, net')) : net'.release [bound] = net := by
  obtain ⟨-, rfl⟩ := bind_eq hb
  simp only [release, List.foldl_cons, List.foldl_nil, List.erase_cons_head]

theorem Opens.inUse_eq (h : net.Opens addrs bounds net') :
    net' = { net with inUse := bounds.reverse ++ net.inUse } := by
  induction h with
  | nil => rfl
  | cons hb _ ih =>
    obtain ⟨-, rfl⟩ := bind_eq hb
    rw [ih]
    simp

theorem Opens.length_eq (h : net.Opens addrs bounds net') : bounds.length = addrs.length := by
  induction h with
  | nil => rfl
  | cons _ _ ih => rw [List.length_cons, List.length_cons, ih]

theorem Opens.nodup (h : net.Opens addrs bounds net') (hx : net.Exclusive) :
    bounds.Nodup ∧ ∀ b ∈ bounds, b ∉ net.inUse := by
  induction h with
  | nil => exact ⟨.nil, nofun⟩
  | cons hb _ ih =>
    obtain ⟨hn, hm⟩ := ih (hx.bind hb)
    obtain ⟨hg, rfl⟩ := bind_eq hb
    constructor
    · refine List.nodup_cons.2 ⟨fun hmem => hm _ hmem List.mem_cons_self, hn⟩
    · rw [List.forall_mem_cons]
      exact ⟨hx _ _ _ hg, fun b hmem hin => hm b hmem (List.mem_cons_of_mem _ hin)⟩

theorem opens_append :
    net.Opens (xs ++ ys) bounds net' ↔ ∃ bs net₁ cs,
      net.Opens xs bs net₁ ∧ net₁.Opens ys cs net' ∧ bounds = bs ++ cs := by
  constructor
  · intro h
    induction xs generalizing net bounds with
    | nil => exact ⟨[], net, bounds, .nil, h, rfl⟩
    | cons x xs ih =>
      cases h with
      | cons hb rest =>
        obtain ⟨bs, net₁, cs, hxs, hys, rfl⟩ := ih rest
        exact ⟨_ :: bs, net₁, cs, .cons hb hxs, hys, rfl⟩
  · rintro ⟨bs, net₁, cs, hxs, hys, rfl⟩
    induction hxs with
    | nil => exact hys
    | cons hb _ ih => exact .cons hb (ih hys)

theorem Opens.unique (h : net.Opens addrs bounds net') (h' : net.Opens addrs bounds' net'') :
    bounds = bounds' ∧ net' = net'' := by
  induction h generalizing bounds' with
  | nil =>
    cases h'
    exact ⟨rfl, rfl⟩
  | cons hb _ ih =>
    cases h' with
    | cons hb' rest =>
      cases hb.symm.trans hb'
      obtain ⟨rfl, rfl⟩ := ih rest
      exact ⟨rfl, rfl⟩

/-- Listeners cannot be opened together if one of them is refused after those before it. -/
theorem Opens.not_opens (h : net.Opens xs bounds net₁) (hb : net₁.bind addr = .error cause) :
    ¬ net.Opens (xs ++ addr :: rest) bounds' net' := by
  intro hall
  obtain ⟨_, _, _, hbefore, hrest, -⟩ := opens_append.1 hall
  obtain ⟨-, rfl⟩ := h.unique hbefore
  cases hrest with
  | cons hok => cases hb.symm.trans hok

theorem Opens.refused_unique (h : net.Opens xs bounds net₁) (hb : net₁.bind addr = .error cause)
    (h' : net.Opens ys bounds' net₂) (hb' : net₂.bind addr' = .error cause')
    (he : xs ++ addr :: rest = ys ++ addr' :: rest') : addr = addr' ∧ cause = cause' := by
  induction h generalizing ys bounds' with
  | nil =>
    cases h' with
    | nil =>
      obtain ⟨rfl, -⟩ := List.cons.inj he
      cases hb.symm.trans hb'
      exact ⟨rfl, rfl⟩
    | cons hok =>
      obtain ⟨rfl, -⟩ := List.cons.inj he
      cases hb.symm.trans hok
  | cons hok _ ih =>
    cases h' with
    | nil =>
      obtain ⟨rfl, -⟩ := List.cons.inj he
      cases hb'.symm.trans hok
    | cons hok' hrest =>
      obtain ⟨rfl, htail⟩ := List.cons.inj he
      cases hok.symm.trans hok'
      exact ih hb hrest htail

/-- Other listeners keep a new one from the address that it asks for. -/
def Holds (net : Network) (addr : SocketAddr) : Prop := addr.port ≠ 0 ∧ isTaken net.inUse addr

instance (net : Network) (addr : SocketAddr) : Decidable (net.Holds addr) :=
  inferInstanceAs (Decidable (addr.port ≠ 0 ∧ isTaken net.inUse addr))

variable {refusal : SocketAddr → Option Error} {inUse : List SocketAddr}

theorem allot_of_taken (hr : refusal addr = none) (hp : addr.port ≠ 0)
    (ht : isTaken inUse addr) : allot refusal inUse addr = .error .addressInUse := by
  simp only [allot, hr, choose, if_neg hp, if_pos ht]

theorem allot_of_free (hr : refusal addr = none) (hp : addr.port ≠ 0)
    (ht : isTaken inUse addr = false) : allot refusal inUse addr = .ok addr := by
  simp only [allot, hr, choose, if_neg hp, ht, Bool.false_eq_true, if_false]

/-- Listeners at free addresses with ports of their own do not get in each other's way. -/
theorem opens_of_free (hg : net.grant = allot refusal)
    (ha : ∀ a ∈ addrs, refusal a = none ∧ a.port ≠ 0 ∧ ¬ isTaken net.inUse a)
    (hd : addrs.Pairwise fun a b => a.port ≠ b.port) :
    ∃ bounds net', net.Opens addrs bounds net' := by
  induction addrs generalizing net with
  | nil => exact ⟨[], net, .nil⟩
  | cons addr addrs ih =>
    rw [List.forall_mem_cons] at ha
    obtain ⟨⟨hr, hp, ht⟩, ha⟩ := ha
    obtain ⟨hne, hd⟩ := List.pairwise_cons.1 hd
    have hb : net.bind addr = .ok (addr, { net with inUse := addr :: net.inUse }) := by
      rw [bind, hg, allot_of_free hr hp (Bool.eq_false_iff.2 ht)]
      rfl
    have hrest : ∀ a ∈ addrs, refusal a = none ∧ a.port ≠ 0 ∧
        ¬ isTaken (addr :: net.inUse) a := by
      intro a hmem
      obtain ⟨hr, hp, ht⟩ := ha a hmem
      refine ⟨hr, hp, ?_⟩
      rw [isTaken, List.any_cons, Bool.or_eq_true, not_or]
      exact ⟨by simp [hne a hmem], ht⟩
    obtain ⟨bounds, net', ho⟩ := @ih { net with inUse := addr :: net.inUse } hg hrest hd
    exact ⟨addr :: bounds, net', .cons hb ho⟩

/-- An address stays taken while listeners are opened. -/
theorem Opens.bind_of_holds (h : net.Opens addrs bounds net₁) (hg : net.grant = allot refusal)
    (hr : refusal addr = none) (ht : net.Holds addr) : net₁.bind addr = .error .addressInUse := by
  have htaken : isTaken (bounds.reverse ++ net.inUse) addr := by
    rw [isTaken, List.any_append, Bool.or_eq_true]
    exact .inr ht.2
  rw [h.inUse_eq, bind, hg, allot_of_taken hr ht.1 htaken]
  rfl

theorem overlaps_self (a : Net.IpAddr) : a.overlaps a := by
  simp [Net.IpAddr.overlaps, Net.IpAddr.covers]

theorem isTaken_of_mem (h : addr ∈ inUse) : isTaken inUse addr := by
  refine List.any_eq_true.2 ⟨addr, h, ?_⟩
  simp [overlaps_self]

theorem firstFree_free (h : firstFree inUse ip count port = some bound) :
    isTaken inUse bound = false := by
  induction count generalizing port with
  | zero => cases h
  | succ count ih =>
    simp only [firstFree] at h
    split at h
    · exact ih h
    · next hf =>
      cases h
      exact Bool.eq_false_iff.2 hf

/-- A machine that looks for free addresses gives none of them out twice. -/
theorem exclusive_allot (hg : net.grant = allot refusal) : net.Exclusive := by
  intro inUse addr bound h hmem
  have hfree : isTaken inUse bound = false := by
    rw [hg] at h
    unfold allot at h
    split at h
    · cases h
    · split at h
      · cases h
      · next hc =>
        cases h
        unfold choose at hc
        split at hc
        · exact firstFree_free hc
        · split at hc
          · cases hc
          · next hf =>
            cases hc
            exact Bool.eq_false_iff.2 hf
  rw [isTaken_of_mem hmem] at hfree
  cases hfree

end Network

end TokenGate.Os
