import Tributary.Proofs.Url.Addresses
import Tributary.Url.Host

/-!
# Hosts are read as they are written

The host of a special scheme that has been read is written as a text that is read as the same host.
What it is written with are plain characters and, for an address of 128 bits, colons and brackets
around them; nothing of this ends a host in a URL.
-/

namespace Tributary.Url.Host

open Text

/-- The hosts that reading gives under a special scheme. -/
def IsSpecial : Host → Prop
  | .empty => False
  | .domain name => name ≠ [] ∧ (∀ c ∈ name, Domain.IsPlain c) ∧
      Domain.toAscii? name = some name ∧ Ipv4.endsInNumber name = false
  | .ipv4 _ => True
  | .ipv6 address => address.IsSmall

section

variable {cs : List Char} {host : Host}

theorem isSpecial_of_readBracketed (h : readBracketed cs = .ok host) : host.IsSpecial := by
  unfold readBracketed at h
  split at h
  next =>
    split at h
    next address haddress =>
      cases h
      exact Ipv6.isSmall_of_read? haddress
    next => cases h
  next => cases h

theorem isSpecial_of_readDomain (h : readDomain cs = .ok host) : host.IsSpecial := by
  unfold readDomain at h
  split at h
  next => cases h
  next => cases h
  next name hne hname =>
    split at h
    next =>
      split at h
      next =>
        cases h
        trivial
      next => cases h
    next hnumber =>
      cases h
      obtain ⟨text, -, hascii⟩ := Option.bind_eq_some_iff.mp hname
      obtain ⟨hself, hplain⟩ := Domain.toAscii?_toAscii? hascii
      exact ⟨hne, hplain, hself, Bool.eq_false_iff.mpr hnumber⟩

/-- What is read is such a host. -/
theorem isSpecial_of_read (h : read cs = .ok host) : host.IsSpecial := by
  unfold read at h
  split at h
  · exact isSpecial_of_readBracketed h
  · exact isSpecial_of_readDomain h

/-- What plain characters, colons and brackets have, the characters of a host have. -/
theorem forall_mem_text {P : Char → Prop} (hplain : ∀ c, Domain.IsPlain c → P c) (hopen : P '[')
    (hclose : P ']') (hcolon : P ':') (h : host.IsSpecial) : ∀ c ∈ host.text, P c := by
  cases host with
  | empty => exact h.elim
  | domain name => exact fun c hc => hplain c (h.2.1 c hc)
  | ipv4 address => exact fun c hc => hplain c (Ipv4.isPlain_of_mem_text address c hc)
  | ipv6 address =>
      show ∀ c ∈ '[' :: (address.text ++ [']']), P c
      rw [List.forall_mem_cons, List.forall_mem_append, List.forall_mem_singleton]
      refine ⟨hopen, Ipv6.forall_mem_text hcolon (fun d hd => hplain _ ?_) address, hclose⟩
      have hall : ∀ d : Fin 16, Domain.IsPlain (Nat.digitChar d) := by decide
      exact hall ⟨d, hd⟩

theorem text_ne_nil (h : host.IsSpecial) : host.text ≠ [] := by
  cases host with
  | empty => exact h.elim
  | domain name => exact h.1
  | ipv4 address => exact List.append_ne_nil_of_right_ne_nil _ (List.cons_ne_nil _ _)
  | ipv6 address => exact List.cons_ne_nil _ _

/-- Plain characters that are a domain in written form are read as they are. -/
theorem read_of_isPlain {name : List Char} (hne : name ≠ [])
    (hplain : ∀ c ∈ name, Domain.IsPlain c) (hascii : Domain.toAscii? name = some name) :
    read name =
      if Ipv4.endsInNumber name then
        match Ipv4.read? name with
        | some address => .ok (.ipv4 address)
        | none => .error .invalidIpv4
      else .ok (.domain name) := by
  have hpercent : '%' ∉ name := fun h => absurd (hplain '%' h) (by decide)
  have hdomain : read name = readDomain name := by
    unfold read
    split
    next => exact absurd (hplain '[' List.mem_cons_self) (by decide)
    next => rfl
  rw [hdomain, readDomain, percentDecode_of_not_mem hpercent, Utf8.decode?_utf8, Option.bind_some,
    hascii]
  split
  next h => cases h
  next h => exact absurd (Option.some.inj h) hne
  next h =>
    cases h
    rfl

/-- A host is read as it is written. -/
theorem read_text (h : host.IsSpecial) : read host.text = .ok host := by
  cases host with
  | empty => exact h.elim
  | domain name =>
      obtain ⟨hne, hplain, hascii, hnumber⟩ := h
      show read name = _
      rw [read_of_isPlain hne hplain hascii, hnumber]
      rfl
  | ipv4 address =>
      have hne : address.text ≠ [] := text_ne_nil (show (Host.ipv4 address).IsSpecial from h)
      show read address.text = _
      rw [read_of_isPlain hne (Ipv4.isPlain_of_mem_text address) (Ipv4.toAscii?_text address),
        Ipv4.endsInNumber_text, if_pos rfl, Ipv4.read?_text]
  | ipv6 address =>
      show readBracketed (address.text ++ [']']) = _
      unfold readBracketed
      rw [if_pos List.getLast?_concat, List.dropLast_concat, Ipv6.read?_text h]

end

end Tributary.Url.Host
