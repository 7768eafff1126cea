import Mathlib.Tactic.Ring
import Tributary.Proofs.Text.Splitting
import Tributary.Url.Punycode

/-!
# Punycode is read as it is written

A reader of Punycode follows its writer. While the writer goes through the text for the places of
one character, the reader's text is the part of that text that has been written so far: all
characters before the writer's place that are no greater, and all characters behind it that are
smaller. The places that the writer has passed over since the last character it wrote are those
that the reader still has to pass over.
-/

namespace Tributary.Url.Punycode

/-! ## Numbers -/

theorem digit?_digitChar {v : Nat} (h : v < 36) : digit? (digitChar v) = some v := by
  have hall : ∀ v : Fin 36, digit? (digitChar v) = some v.val := by decide
  exact hall ⟨v, h⟩

theorem threshold_bounds (place bias : Nat) :
    1 ≤ threshold place bias ∧ threshold place bias ≤ 26 := by
  unfold threshold
  omega

/-- A number is read as it was written, whatever follows it. -/
theorem number?_digits (bias : Nat) (rest : List Char) (place q weight sum : Nat) :
    number? bias place weight sum (digits bias place q ++ rest) =
      some (sum + q * weight, rest) := by
  induction q using Nat.strong_induction_on generalizing place weight sum with
  | _ q ih =>
      obtain ⟨hlow, hhigh⟩ := threshold_bounds place bias
      rw [digits]
      split
      next hq =>
        rw [List.singleton_append, number?, digit?_digitChar (by omega)]
        exact if_pos hq
      next hq =>
        have hmod := Nat.mod_lt (q - threshold place bias) (y := 36 - threshold place bias)
          (by omega)
        have hdiv : (q - threshold place bias) / (36 - threshold place bias) < q :=
          Nat.lt_of_le_of_lt (Nat.div_le_self _ _) (by omega)
        have hparts := Nat.div_add_mod (q - threshold place bias) (36 - threshold place bias)
        rw [List.cons_append, number?, digit?_digitChar (by omega)]
        refine (if_neg (by omega)).trans ?_
        rw [ih _ hdiv]
        generalize (q - threshold place bias) / (36 - threshold place bias) = a at *
        generalize (q - threshold place bias) % (36 - threshold place bias) = b at *
        have hq : q = threshold place bias + b + (36 - threshold place bias) * a := by omega
        have hsum : sum + (threshold place bias + b) * weight +
            a * (weight * (36 - threshold place bias)) = sum + q * weight := by
          rw [hq]
          ring
        rw [hsum]

/-! ## Characters -/

theorem exists_of_mem_digits {bias place q : Nat} {c : Char} (h : c ∈ digits bias place q) :
    ∃ v, v < 36 ∧ c = digitChar v := by
  induction q using Nat.strong_induction_on generalizing place with
  | _ q ih =>
      obtain ⟨hlow, hhigh⟩ := threshold_bounds place bias
      rw [digits] at h
      split at h
      next hq => exact ⟨q, by omega, List.mem_singleton.mp h⟩
      next hq =>
        rcases List.mem_cons.mp h with h | h
        · have hmod := Nat.mod_lt (q - threshold place bias) (y := 36 - threshold place bias)
            (by omega)
          exact ⟨_, by omega, h⟩
        · have hdiv : (q - threshold place bias) / (36 - threshold place bias) < q :=
            Nat.lt_of_le_of_lt (Nat.div_le_self _ _) (by omega)
          exact ih _ hdiv h

theorem exists_of_mem_placesOf {m : Nat} {c : Char} {cs : List Char} {s : State} {delta : Nat}
    (h : c ∈ (placesOf m s delta cs).1) : ∃ v, v < 36 ∧ c = digitChar v := by
  induction cs generalizing s delta with
  | nil => cases h
  | cons d cs ih =>
      rw [placesOf] at h
      split at h
      · exact ih h
      split at h
      · rcases List.mem_append.mp h with h | h
        · exact exists_of_mem_digits h
        · exact ih h
      · exact ih h

theorem exists_of_mem_places {cs ms : List _} {c : Char} {s : State} {n delta : Nat}
    (h : c ∈ places cs s n delta ms) : ∃ v, v < 36 ∧ c = digitChar v := by
  induction ms generalizing s n delta with
  | nil => cases h
  | cons m ms ih =>
      rw [places] at h
      rcases List.mem_append.mp h with h | h
      · exact exists_of_mem_placesOf h
      · exact ih h

/-! ## The code points that are inserted -/

theorem mem_insertPoint {n k : Nat} {ms : List Nat} : k ∈ insertPoint n ms ↔ k = n ∨ k ∈ ms := by
  induction ms with
  | nil => exact List.mem_cons
  | cons m ms ih =>
      unfold insertPoint
      split
      · exact List.mem_cons
      split
      next heq =>
        rw [List.mem_cons, heq]
        tauto
      next =>
        rw [List.mem_cons, ih, List.mem_cons]
        tauto

theorem pairwise_insertPoint (n : Nat) {ms : List Nat} (h : ms.Pairwise (· < ·)) :
    (insertPoint n ms).Pairwise (· < ·) := by
  induction ms with
  | nil => exact List.pairwise_singleton _ _
  | cons m ms ih =>
      obtain ⟨hm, hms⟩ := List.pairwise_cons.mp h
      unfold insertPoint
      split
      next hlt =>
        refine List.pairwise_cons.mpr ⟨?_, h⟩
        exact List.forall_mem_cons.mpr ⟨hlt, fun k hk => Nat.lt_trans hlt (hm k hk)⟩
      next hge =>
        split
        next => exact h
        next hne =>
          refine List.pairwise_cons.mpr ⟨fun k hk => ?_, ih hms⟩
          rcases mem_insertPoint.mp hk with rfl | hk
          · omega
          · exact hm k hk

theorem mem_points {cs : List Char} {k : Nat} :
    k ∈ points cs ↔ ∃ c ∈ cs, 0x80 ≤ c.toNat ∧ c.toNat = k := by
  have hfold (ns : List Nat) : k ∈ ns.foldr insertPoint [] ↔ k ∈ ns := by
    induction ns with
    | nil => rfl
    | cons n ns ih => rw [List.foldr_cons, mem_insertPoint, ih, List.mem_cons]
  unfold points isBasic
  rw [hfold, List.mem_map]
  simp only [List.mem_filter, Bool.not_eq_true', decide_eq_false_iff_not, Nat.not_lt, and_assoc]

theorem pairwise_points (cs : List Char) : (points cs).Pairwise (· < ·) := by
  unfold points
  induction (cs.filter (!isBasic ·)).map Char.toNat with
  | nil => exact List.Pairwise.nil
  | cons n ns ih => exact pairwise_insertPoint n ih

/-! ## Reading follows writing -/

/-- The characters below a code point. -/
def below (n : Nat) (cs : List Char) : List Char := cs.filter fun c => c.toNat < n

theorem below_append (n : Nat) (cs ds : List Char) :
    below n (cs ++ ds) = below n cs ++ below n ds := List.filter_append ..

theorem below_cons_of_lt {n : Nat} {c : Char} (h : c.toNat < n) (cs : List Char) :
    below n (c :: cs) = c :: below n cs := List.filter_cons_of_pos (decide_eq_true h)

theorem below_cons_of_le {n : Nat} {c : Char} (h : n ≤ c.toNat) (cs : List Char) :
    below n (c :: cs) = below n cs :=
  List.filter_cons_of_neg (by simpa using h)

/-- Reading a number inserts one character. -/
theorem insertAll_of_number {s : State} {n i delta : Nat} {text cs rest : List Char}
    (hcs : cs ≠ []) (h : number? s.bias 36 1 0 cs = some (delta, rest))
    (hvalid : (n + (i + delta) / (s.count + 1)).isValidChar) :
    insertAll s n i text cs =
      insertAll (s.next delta) (n + (i + delta) / (s.count + 1)) ((i + delta) % (s.count + 1) + 1)
        (text.take ((i + delta) % (s.count + 1)) ++
          Char.ofNat (n + (i + delta) / (s.count + 1)) ::
            text.drop ((i + delta) % (s.count + 1))) rest := by
  rw [insertAll, if_neg (by simpa using hcs)]
  split
  next hnone =>
    rw [h] at hnone
    cases hnone
  next delta' rest' hsome =>
    rw [h] at hsome
    cases hsome
    exact if_pos hvalid

theorem insertAll_nil (s : State) (n i : Nat) (text : List Char) :
    insertAll s n i text [] = some text := by
  rw [insertAll]
  exact if_pos rfl

theorem digits_ne_nil (bias place q : Nat) : digits bias place q ≠ [] := by
  rw [digits]
  split
  · exact List.cons_ne_nil _ _
  · exact List.cons_ne_nil _ _

/-- The text that a reader has while the writer goes through a text for the places of `m`, has gone
through `front` and has `back` before it. -/
def reached (m : Nat) (front back : List Char) : List Char :=
  below (m + 1) front ++ below m back

theorem reached_nil (m : Nat) (front : List Char) : reached m front [] = below (m + 1) front :=
  List.append_nil _

/-- Where a reader stands then. `n` and `i` are the reader's code point and place, and `delta` is
what the writer has passed over since the last character it wrote. -/
structure Stands (m : Nat) (s : State) (delta n i : Nat) (front back : List Char) : Prop where
  le : n ≤ m
  count : s.count = (reached m front back).length
  place : i + delta = (m - n) * (s.count + 1) + (below (m + 1) front).length

section

variable {m n i delta : Nat} {s : State} {front back : List Char} {c : Char}

theorem below_snoc (h : c.toNat ≤ m) :
    below (m + 1) (front ++ [c]) = below (m + 1) front ++ [c] := by
  rw [below_append, below_cons_of_lt (Nat.lt_succ_of_le h)]
  rfl

theorem below_snoc_of_lt (h : m < c.toNat) :
    below (m + 1) (front ++ [c]) = below (m + 1) front := by
  rw [below_append, below_cons_of_le h]
  exact List.append_nil _

theorem reached_snoc_of_lt (h : c.toNat < m) :
    reached m (front ++ [c]) back = reached m front (c :: back) := by
  unfold reached
  rw [below_snoc (Nat.le_of_lt h), below_cons_of_lt h, List.append_assoc, List.singleton_append]

theorem reached_snoc_of_gt (h : m < c.toNat) :
    reached m (front ++ [c]) back = reached m front (c :: back) := by
  unfold reached
  rw [below_snoc_of_lt h, below_cons_of_le (Nat.le_of_lt h)]

/-- A smaller character the reader has already: one more place to pass over. -/
theorem Stands.of_lt (h : Stands m s delta n i front (c :: back)) (hc : c.toNat < m) :
    Stands m s (delta + 1) n i (front ++ [c]) back := by
  refine ⟨h.le, ?_, ?_⟩
  · rw [reached_snoc_of_lt hc]
    exact h.count
  · have hplace := h.place
    rw [below_snoc (Nat.le_of_lt hc), List.length_append, List.length_singleton]
    omega

/-- A greater character comes later. -/
theorem Stands.of_gt (h : Stands m s delta n i front (c :: back)) (hc : m < c.toNat) :
    Stands m s delta n i (front ++ [c]) back := by
  refine ⟨h.le, ?_, ?_⟩
  · rw [reached_snoc_of_gt hc]
    exact h.count
  · rw [below_snoc_of_lt hc]
    exact h.place

section

variable (h : Stands m s delta n i front (c :: back)) (hc : c.toNat = m)

include h hc

theorem Stands.count_eq : s.count = (below (m + 1) front).length + (below m back).length := by
  have hcount := h.count
  unfold reached at hcount
  rwa [below_cons_of_le (Nat.le_of_eq hc.symm), List.length_append] at hcount

/-- Behind a character that is written nothing has been passed over. -/
theorem Stands.of_eq : Stands m (s.next delta) 0 m ((below (m + 1) front).length + 1)
    (front ++ [c]) back := by
  refine ⟨Nat.le_refl m, ?_, ?_⟩
  · unfold reached
    show s.count + 1 = _
    rw [below_snoc (Nat.le_of_eq hc), List.length_append, List.length_append,
      List.length_singleton, h.count_eq hc]
    omega
  · rw [below_snoc (Nat.le_of_eq hc), List.length_append, List.length_singleton, Nat.sub_self,
      Nat.zero_mul, Nat.zero_add]

/-- The number that is written for a character leads to its code point and to its place. -/
theorem Stands.div_mod : n + (i + delta) / (s.count + 1) = m ∧
    (i + delta) % (s.count + 1) = (below (m + 1) front).length := by
  have hcount := h.count_eq hc
  have hle := h.le
  rw [h.place, Nat.add_comm (_ * _)]
  constructor
  · rw [Nat.add_mul_div_right _ _ (Nat.succ_pos _), Nat.div_eq_of_lt (by omega)]
    omega
  · rw [Nat.add_mul_mod_self_right, Nat.mod_eq_of_lt (by omega)]

/-- A character that is written the reader inserts. -/
theorem Stands.insertAll_digits (written : List Char) :
    insertAll s n i (reached m front (c :: back)) (digits s.bias 36 delta ++ written) =
      insertAll (s.next delta) m ((below (m + 1) front).length + 1)
        (reached m (front ++ [c]) back) written := by
  obtain ⟨hdiv, hmod⟩ := h.div_mod hc
  have hnumber := number?_digits s.bias written 36 delta 1 0
  rw [Nat.zero_add, Nat.mul_one] at hnumber
  have hvalid : (n + (i + delta) / (s.count + 1)).isValidChar := by
    rw [hdiv, ← hc]
    exact c.valid
  rw [insertAll_of_number (List.append_ne_nil_of_left_ne_nil (digits_ne_nil _ _ _) _) hnumber
    hvalid, hdiv, hmod]
  unfold reached
  rw [below_cons_of_le (Nat.le_of_eq hc.symm), List.take_left, List.drop_left,
    below_snoc (Nat.le_of_eq hc), List.append_assoc, ← hc, Char.ofNat_toNat, List.singleton_append]

end

end

/-- Going through a text takes the reader along. -/
theorem insertAll_placesOf {m : Nat} (back : List Char) {front : List Char} {s : State}
    {delta n i : Nat} (h : Stands m s delta n i front back) :
    ∃ n' i', Stands m (placesOf m s delta back).2.1 (placesOf m s delta back).2.2 n' i'
        (front ++ back) [] ∧
      ∀ rest, insertAll s n i (reached m front back) ((placesOf m s delta back).1 ++ rest) =
        insertAll (placesOf m s delta back).2.1 n' i' (reached m (front ++ back) []) rest := by
  induction back generalizing front s delta n i with
  | nil =>
      rw [List.append_nil]
      exact ⟨n, i, h, fun _ => rfl⟩
  | cons c back ih =>
      have hfront : front ++ c :: back = front ++ [c] ++ back := by simp
      rw [placesOf, hfront]
      rcases Nat.lt_trichotomy c.toNat m with hlt | heq | hgt
      · rw [if_pos hlt, ← reached_snoc_of_lt hlt]
        exact ih (h.of_lt hlt)
      · obtain ⟨n', i', hend, hrest⟩ := ih (h.of_eq heq)
        rw [if_neg (by omega), if_pos heq]
        generalize placesOf m (s.next delta) 0 back = r at *
        obtain ⟨written, s', delta'⟩ := r
        refine ⟨n', i', hend, fun rest => ?_⟩
        dsimp only
        rw [List.append_assoc, h.insertAll_digits heq]
        exact hrest rest
      · rw [if_neg (by omega), if_neg (by omega), ← reached_snoc_of_gt hgt]
        exact ih (h.of_gt hgt)

/-- Nothing is between two code points if no character of the text is. -/
theorem below_eq_of_le {n m : Nat} {cs : List Char} (hle : n ≤ m)
    (h : ∀ c ∈ cs, n ≤ c.toNat → m ≤ c.toNat) : below n cs = below m cs := by
  refine List.filter_congr fun c hc => ?_
  rw [decide_eq_decide]
  exact ⟨fun hlt => Nat.lt_of_lt_of_le hlt hle, fun hlt => Nat.not_le.mp fun hn =>
    Nat.not_le.mpr hlt (h c hc hn)⟩

/-- Going through a text for one code point after the other writes all of it. -/
theorem insertAll_places {cs : List Char} (ms : List Nat) {s : State} {n d k i : Nat}
    (hsorted : ms.Pairwise (· < ·)) (hfrom : ∀ m ∈ ms, n ≤ m)
    (hall : ∀ c ∈ cs, n ≤ c.toNat → c.toNat ∈ ms) (hk : k ≤ n)
    (hcount : s.count = (below n cs).length) (hplace : i + d = (n - k) * (s.count + 1)) :
    insertAll s k i (below n cs) (places cs s n d ms) = some cs := by
  induction ms generalizing s n d k i with
  | nil =>
      have hcs : below n cs = cs := by
        refine List.filter_eq_self.mpr fun c hc => decide_eq_true (Nat.not_le.mp fun hle => ?_)
        exact List.not_mem_nil (hall c hc hle)
      rw [places, insertAll_nil, hcs]
  | cons m ms ih =>
      obtain ⟨hfirst, hsorted⟩ := List.pairwise_cons.mp hsorted
      obtain ⟨hnm, -⟩ := List.forall_mem_cons.mp hfrom
      have hnone : below n cs = below m cs := by
        refine below_eq_of_le hnm fun c hc hle => ?_
        rcases List.mem_cons.mp (hall c hc hle) with heq | hmem
        · exact Nat.le_of_eq heq.symm
        · exact Nat.le_of_lt (hfirst _ hmem)
      have hstands : Stands m s (d + (m - n) * (s.count + 1)) k i [] cs := by
        refine ⟨Nat.le_trans hk hnm, ?_, ?_⟩
        · rw [hcount, hnone]
          rfl
        · have hsplit : m - k = (n - k) + (m - n) := by omega
          rw [hsplit, Nat.add_mul, ← hplace]
          show _ = _ + 0
          omega
      obtain ⟨k', i', hend, hrest⟩ := insertAll_placesOf cs hstands
      rw [List.nil_append] at hend hrest
      rw [reached_nil] at hrest
      have hle := hend.le
      have hcount' := hend.count
      have hplace' := hend.place
      rw [reached_nil] at hcount'
      have hnext := ih (s := (placesOf m s (d + (m - n) * (s.count + 1)) cs).2.1) (n := m + 1)
        (d := (placesOf m s (d + (m - n) * (s.count + 1)) cs).2.2 + 1) (k := k') (i := i')
        hsorted hfirst ?_ (by omega) hcount' ?_
      · rw [places, hnone]
        exact (hrest _).trans hnext
      · intro c hc hle'
        rcases List.mem_cons.mp (hall c hc (by omega)) with heq | hmem
        · omega
        · exact hmem
      · have hsplit : m + 1 - k' = (m - k') + 1 := by omega
        rw [hsplit, Nat.add_mul, Nat.one_mul, ← Nat.add_assoc, hplace', hcount']
        omega

/-! ## The text as a whole -/

theorem not_mem_places {cs : List Char} {s : State} {n delta : Nat} {ms : List Nat} :
    '-' ∉ places cs s n delta ms := by
  intro h
  obtain ⟨v, hv, hc⟩ := exists_of_mem_places h
  have hdigit := digit?_digitChar hv
  rw [← hc] at hdigit
  cases hdigit

theorem splitBasic_of_not_mem {cs : List Char} (h : '-' ∉ cs) : splitBasic cs = ([], cs) := by
  have hall := Text.forall_bne_of_not_mem (mt List.mem_reverse.mp h)
  unfold splitBasic
  rw [List.dropWhile_eq_nil_iff.mpr hall]

theorem splitBasic_append {front back : List Char} (h : '-' ∉ back) :
    splitBasic (front ++ '-' :: back) = (front, back) := by
  have hall := Text.forall_bne_of_not_mem (mt List.mem_reverse.mp h)
  have hreverse : (front ++ '-' :: back).reverse = back.reverse ++ '-' :: front.reverse := by simp
  unfold splitBasic
  rw [hreverse, List.dropWhile_append_of_pos hall, List.takeWhile_append_of_pos hall]
  simp

/-- What is written is read. -/
theorem decode?_encode (cs : List Char) : decode? (encode cs) = some cs := by
  have hbasic : cs.filter isBasic = below 0x80 cs := rfl
  have hread : insertAll { count := (cs.filter isBasic).length } 0x80 0 (cs.filter isBasic)
      (places cs { count := (cs.filter isBasic).length } 0x80 0 (points cs)) = some cs := by
    rw [hbasic]
    refine insertAll_places (points cs) (pairwise_points cs) ?_ ?_ (Nat.le_refl _) rfl ?_
    · intro m hm
      obtain ⟨c, -, hlow, rfl⟩ := mem_points.mp hm
      exact hlow
    · intro c hc hle
      exact mem_points.mpr ⟨c, hc, hle, rfl⟩
    · rw [Nat.sub_self, Nat.zero_mul]
  have hsplit : splitBasic (encode cs) = (cs.filter isBasic,
      places cs { count := (cs.filter isBasic).length } 0x80 0 (points cs)) := by
    unfold encode
    dsimp only
    split
    next hempty =>
      rw [List.nil_append, splitBasic_of_not_mem not_mem_places, List.isEmpty_iff.mp hempty]
    next => rw [List.append_assoc, List.singleton_append, splitBasic_append not_mem_places]
  have hall : (cs.filter isBasic).all isBasic = true :=
    List.all_eq_true.mpr fun c hc => (List.mem_filter.mp hc).2
  unfold decode?
  rw [hsplit]
  dsimp only
  rw [if_pos hall, hread]

/-- Only small letters, digits, hyphens and the ASCII characters of the text are written. -/
theorem forall_mem_encode {P : Char → Prop} {cs : List Char}
    (hbasic : ∀ c ∈ cs, c.toNat < 0x80 → P c) (hhyphen : P '-')
    (hdigit : ∀ v, v < 36 → P (digitChar v)) : ∀ c ∈ encode cs, P c := by
  intro c hc
  unfold encode at hc
  dsimp only at hc
  have hfilter : ∀ c ∈ cs.filter isBasic, P c := by
    intro c hc
    obtain ⟨hmem, hlow⟩ := List.mem_filter.mp hc
    exact hbasic c hmem (of_decide_eq_true hlow)
  rcases List.mem_append.mp hc with hc | hc
  · split at hc
    · cases hc
    · rcases List.mem_append.mp hc with hc | hc
      · exact hfilter c hc
      · rw [List.mem_singleton] at hc
        exact hc ▸ hhyphen
  · obtain ⟨v, hv, rfl⟩ := exists_of_mem_places hc
    exact hdigit v hv

end Tributary.Url.Punycode
