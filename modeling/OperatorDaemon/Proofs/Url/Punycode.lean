import Mathlib.Data.List.TakeWhile
import Mathlib.Tactic.Ring
import OperatorDaemon.Url.Punycode

/-!
# What is written in Punycode is read back

A reader follows the writer from one character beyond ASCII to the next. Whenever a distance has been written, the
reader has put in the same characters, and the distance being counted is what the reader has to go from the place of
the last one to the place where the writer is.
-/

namespace OperatorDaemon.Punycode

/-! ### Digits -/

/-- A character is a digit. -/
def IsDigit (c : Char) : Prop := ∃ n < 36, c = digit n

lemma digitValue?_digit : ∀ n < 36, digitValue? (digit n) = some n := by decide

lemma IsDigit.isPlain {c : Char} (h : IsDigit c) : c.toNat < 0x80 ∧ asciiLower c = c ∧ c ≠ '-' ∧ c ≠ '.' := by
  obtain ⟨n, hn, rfl⟩ := h
  revert n
  decide

/-- The digit behind which a number goes on is at least the threshold. -/
lemma threshold_add_mod_lt (place bias n : Nat) :
    threshold place bias + n % (36 - threshold place bias) < 36 := by
  have hle := threshold_le place bias
  have hlt := Nat.mod_lt n (show 0 < 36 - threshold place bias by omega)
  omega

lemma isDigit_of_mem_numberDigits {bias place n : Nat} {c : Char} (h : c ∈ numberDigits bias place n) :
    IsDigit c := by
  induction place, n using numberDigits.induct bias with
  | case1 place n hlt =>
    rw [numberDigits, if_pos hlt, List.mem_singleton] at h
    exact ⟨n, Nat.lt_of_lt_of_le hlt ((threshold_le place bias).trans (by decide)), h⟩
  | case2 place n hge ih =>
    rw [numberDigits, if_neg hge, List.mem_cons] at h
    obtain rfl | h := h
    · exact ⟨_, threshold_add_mod_lt _ _ _, rfl⟩
    · exact ih h

lemma numberDigits_ne_nil (bias place n : Nat) : numberDigits bias place n ≠ [] := by
  rw [numberDigits]
  split_ifs <;> exact List.cons_ne_nil _ _

/-- A number is read back, on top of what has been read and whatever comes behind it. -/
lemma readNumber_numberDigits (bias place n value weight : Nat) (rest : List Char) :
    readNumber bias place value weight (numberDigits bias place n ++ rest) = some (value + n * weight, rest) := by
  induction place, n using numberDigits.induct bias generalizing value weight with
  | case1 place n hlt =>
    have hdigit := digitValue?_digit n (Nat.lt_of_lt_of_le hlt ((threshold_le place bias).trans (by decide)))
    rw [numberDigits, if_pos hlt, List.singleton_append, readNumber, hdigit]
    simp only [if_pos hlt]
  | case2 place n hge ih =>
    have hdigit := digitValue?_digit _ (threshold_add_mod_lt place bias (n - threshold place bias))
    rw [numberDigits, if_neg hge, List.cons_append, readNumber, hdigit]
    generalize threshold place bias = t at hge ih hdigit ⊢
    have hsplit : t + (n - t) % (36 - t) + (36 - t) * ((n - t) / (36 - t)) = n := by
      have h := Nat.mod_add_div (n - t) (36 - t)
      omega
    simp only [show ¬ t + (n - t) % (36 - t) < t by omega, if_false, ih]
    congr 2
    calc value + (t + (n - t) % (36 - t)) * weight + (n - t) / (36 - t) * (weight * (36 - t))
        = value + (t + (n - t) % (36 - t) + (36 - t) * ((n - t) / (36 - t))) * weight := by ring
      _ = value + n * weight := by rw [hsplit]

/-! ### Readers -/

lemma length_lt_of_readNumber {bias place value weight n : Nat} {cs rest : List Char}
    (h : readNumber bias place value weight cs = some (n, rest)) : rest.length < cs.length := by
  induction cs generalizing place value weight with
  | nil => cases h
  | cons c cs ih =>
    rw [readNumber] at h
    cases hdigit : digitValue? c with
    | none => simp [hdigit] at h
    | some d =>
      simp only [hdigit] at h
      split_ifs at h
      · cases h
        exact Nat.lt_succ_self _
      · exact Nat.lt_succ_of_lt (ih h)

/-- Every limit is as good as another if the text is no longer. -/
lemma readFrom_congr {limit limit' : Nat} {cs : List Char} (h : cs.length ≤ limit) (h' : cs.length ≤ limit')
    (out : List Char) (point index bias : Nat) (isFirst : Bool) :
    readFrom limit out point index bias isFirst cs = readFrom limit' out point index bias isFirst cs := by
  induction limit generalizing limit' cs out point index bias isFirst with
  | zero =>
    rw [List.eq_nil_of_length_eq_zero (Nat.le_zero.mp h)]
    cases limit' <;> rfl
  | succ limit ih =>
    cases cs with
    | nil => cases limit' <;> rfl
    | cons c cs =>
      obtain ⟨limit', rfl⟩ := Nat.exists_eq_add_of_le' (Nat.le_trans (Nat.succ_pos _) h')
      simp only [readFrom]
      cases hnumber : readNumber bias 0 0 1 (c :: cs) with
      | none => rfl
      | some found =>
        obtain ⟨distance, rest⟩ := found
        have hlt := length_lt_of_readNumber hnumber
        dsimp only
        split_ifs
        · exact ih (by omega) (by omega) _ _ _ _ _
        · rfl

/-- A reader on its way: what it has read, the place of the last character that it has put in, and how the next
number is to be read. -/
structure Reader where
  /-- The characters so far. -/
  out : List Char
  /-- The number of the last character. -/
  point : Nat
  /-- The place behind the last character. -/
  index : Nat
  /-- The bias. -/
  bias : Nat
  /-- Whether no character has been put in. -/
  isFirst : Bool

/-- What the reader makes of the rest of a text. -/
def Reader.read (r : Reader) (cs : List Char) : Option (List Char) :=
  readFrom cs.length r.out r.point r.index r.bias r.isFirst cs

/-- The reader once it has put in a character at a place. -/
def Reader.insert (r : Reader) (c : Char) (place distance : Nat) : Reader where
  out := r.out.take place ++ c :: r.out.drop place
  point := c.toNat
  index := place + 1
  bias := nextBias distance (r.out.length + 1) r.isFirst
  isFirst := false

/-- The place to which a distance leads, counted in rounds through all places. -/
lemma div_mod_of_add_eq {point point' size place total : Nat} (hplace : place < size)
    (h : point' * size + place = point * size + total) :
    point + total / size = point' ∧ total % size = place := by
  have hpos : 0 < size := by omega
  constructor
  · calc point + total / size = (point * size + total) / size := by
          rw [Nat.mul_comm, Nat.mul_add_div hpos]
      _ = (point' * size + place) / size := by rw [h]
      _ = point' := by rw [Nat.mul_comm, Nat.mul_add_div hpos, Nat.div_eq_of_lt hplace, Nat.add_zero]
  · calc total % size = (point * size + total) % size := by rw [Nat.mul_comm, Nat.mul_add_mod]
      _ = (point' * size + place) % size := by rw [h]
      _ = place := by rw [Nat.mul_comm, Nat.mul_add_mod, Nat.mod_eq_of_lt hplace]

/-- The digits of a distance make the reader put in the character that the distance leads to. -/
lemma Reader.read_numberDigits {r : Reader} {c : Char} {place distance : Nat} (hplace : place ≤ r.out.length)
    (h : c.toNat * (r.out.length + 1) + place = r.point * (r.out.length + 1) + (r.index + distance))
    (rest : List Char) :
    r.read (numberDigits r.bias 0 distance ++ rest) = (r.insert c place distance).read rest := by
  obtain ⟨hpoint, hindex⟩ := div_mod_of_add_eq (Nat.lt_succ_of_le hplace) h
  have hnumber := readNumber_numberDigits r.bias 0 distance 0 1 rest
  have hlength := length_lt_of_readNumber hnumber
  obtain ⟨d, ds, hdigits⟩ := List.exists_cons_of_ne_nil (numberDigits_ne_nil r.bias 0 distance)
  rw [hdigits, List.cons_append] at hnumber hlength ⊢
  rw [Nat.zero_add, Nat.mul_one] at hnumber
  have hvalid : c.toNat.isValidChar := c.valid
  rw [read, List.length_cons]
  simp only [readFrom, hnumber, hpoint, hindex, if_pos hvalid, Char.ofNat_toNat]
  exact readFrom_congr (Nat.le_of_lt_succ hlength) (Nat.le_refl _) _ _ _ _ _

/-! ### Writers and readers -/

/-- A reader stands where a writer is. The writer has gone through all places up to a number, and among the
characters with this number past those in front of which `rank` characters stand. -/
structure Follows (basic : Nat) (w : Writing) (point rank : Nat) (r : Reader) : Prop where
  bias : r.bias = w.bias
  count : r.out.length = w.count
  isFirst : r.isFirst = decide (w.count = basic)
  basic_le : basic ≤ w.count
  distance : point * (w.count + 1) + rank = r.point * (w.count + 1) + (r.index + w.distance)

/-- A writer has written what leads from one state of a reader to another. -/
def Leads (w : Writing) (r : Reader) (w' : Writing) (r' : Reader) : Prop :=
  ∃ text, w'.digits = text.reverse ++ w.digits ∧ (∀ c ∈ text, IsDigit c) ∧
    ∀ rest, r.read (text ++ rest) = r'.read rest

namespace Leads

variable {w w' w'' : Writing} {r r' r'' : Reader}

lemma of_digits_eq (h : w'.digits = w.digits) : Leads w r w' r :=
  ⟨[], by simpa using h, by simp, fun _ => rfl⟩

lemma trans (h : Leads w r w' r') (h' : Leads w' r' w'' r'') : Leads w r w'' r'' := by
  obtain ⟨text, hdigits, htext, hread⟩ := h
  obtain ⟨text', hdigits', htext', hread'⟩ := h'
  refine ⟨text ++ text', ?_, List.forall_mem_append.mpr ⟨htext, htext'⟩, fun rest => ?_⟩
  · rw [hdigits', hdigits, List.reverse_append, List.append_assoc]
  · rw [List.append_assoc, hread, hread']

end Leads

/-- The characters with a number up to `point`. -/
abbrev upTo (point : Nat) (cs : List Char) : List Char := cs.filter (·.toNat ≤ point)

/-- The characters with a number below `point`. -/
abbrev below (point : Nat) (cs : List Char) : List Char := cs.filter (·.toNat < point)

/-- The writer is looking for `point` and has gone past some characters, and the reader follows. -/
structure Follows.Within (basic point : Nat) (before after : List Char) (w : Writing) (r : Reader) : Prop where
  follows : Follows basic w point (upTo point before).length r
  out : r.out = upTo point before ++ below point after

variable {basic point : Nat} {before after cs : List Char} {w : Writing} {r : Reader}

/-- Going past a character, the writer leads the reader along. -/
lemma Follows.Within.visit {c : Char} (h : Within basic point before (c :: after) w r) :
    ∃ r', Leads w r (w.visit basic point c) r' ∧
      Within basic point (before ++ [c]) after (w.visit basic point c) r' := by
  obtain ⟨hfollows, hout⟩ := h
  rw [Writing.visit]
  obtain hlt | heq | hgt := Nat.lt_trichotomy c.toNat point
  · rw [if_pos hlt]
    have hupTo : upTo point (before ++ [c]) = upTo point before ++ [c] := by simp [hlt.le]
    refine ⟨r, .of_digits_eq rfl, ⟨hfollows.bias, hfollows.count, hfollows.isFirst, hfollows.basic_le, ?_⟩, ?_⟩
    · have hdistance := hfollows.distance
      rw [hupTo, List.length_append, List.length_singleton]
      dsimp only
      omega
    · rw [hout, hupTo]
      simp [hlt]
  · subst heq
    rw [if_neg (Nat.lt_irrefl _), if_pos rfl]
    have hcount := hfollows.count
    have hdistance := hfollows.distance
    rw [← hcount] at hdistance
    have hplace : (upTo c.toNat before).length ≤ r.out.length := by
      rw [hout, List.length_append]
      exact Nat.le_add_right _ _
    refine ⟨r.insert c (upTo c.toNat before).length w.distance, ⟨_, rfl, ?_, ?_⟩, ⟨?_, ?_, ?_, ?_, ?_⟩, ?_⟩
    · exact fun d hd => isDigit_of_mem_numberDigits hd
    · rw [← hfollows.bias]
      exact Reader.read_numberDigits hplace hdistance
    · simp only [Reader.insert, hcount, hfollows.isFirst]
    · simp only [Reader.insert, List.length_append, List.length_cons, ← hcount, List.length_take, List.length_drop]
      omega
    · have hle := hfollows.basic_le
      simp only [Reader.insert]
      exact (decide_eq_false (by omega)).symm
    · exact hfollows.basic_le.trans (Nat.le_succ _)
    · simp [Reader.insert]
    · simp only [Reader.insert, hout]
      simp
  · rw [if_neg (Nat.lt_asymm hgt), if_neg (Nat.ne_of_gt hgt)]
    refine ⟨r, .of_digits_eq rfl, ?_, ?_⟩
    · simpa [Nat.not_le.mpr hgt] using hfollows
    · rw [hout]
      simp [Nat.not_le.mpr hgt, Nat.lt_asymm hgt]

lemma Follows.Within.visitRest (h : Within basic point before after w r) :
    ∃ r', Leads w r (after.foldl (Writing.visit basic point) w) r' ∧
      Within basic point (before ++ after) [] (after.foldl (Writing.visit basic point) w) r' := by
  induction after generalizing before w r with
  | nil => exact ⟨r, .of_digits_eq rfl, by rwa [List.append_nil]⟩
  | cons c after ih =>
    obtain ⟨r', hleads, hwithin⟩ := h.visit
    obtain ⟨r'', hleads', hwithin'⟩ := ih hwithin
    refine ⟨r'', hleads.trans hleads', ?_⟩
    rwa [List.append_assoc] at hwithin'

/-- The writer is about to look for numbers from `least` on, and the reader follows. -/
structure Follows.Before (basic : Nat) (cs : List Char) (least : Nat) (w : Writing) (r : Reader) : Prop where
  follows : Follows basic w least 0 r
  out : r.out = below least cs

/-- If all characters from `least` on have one of the ascending numbers that the writer looks for, the reader has
read all characters in the end. -/
lemma Follows.Before.visitAll {points : List Nat} {least : Nat} (h : Before basic cs least w r)
    (hle : ∀ point ∈ points, least ≤ point) (hsorted : points.Pairwise (· < ·))
    (hcs : ∀ c ∈ cs, least ≤ c.toNat → c.toNat ∈ points) :
    ∃ r', Leads w r (w.visitAll basic cs least points) r' ∧ r'.out = cs := by
  induction points generalizing least w r with
  | nil =>
    refine ⟨r, .of_digits_eq rfl, ?_⟩
    rw [h.out, List.filter_eq_self]
    intro c hc
    rw [decide_eq_true_iff, ← Nat.not_le]
    exact fun hle => List.not_mem_nil (hcs c hc hle)
  | cons point points ih =>
    obtain ⟨hpoint, hpoints⟩ := List.forall_mem_cons.mp hle
    obtain ⟨hhead, hsorted⟩ := List.pairwise_cons.mp hsorted
    obtain ⟨hfollows, hout⟩ := h
    -- No character lies between the numbers that have been looked for and the next one.
    have hskip : below least cs = below point cs := by
      refine List.filter_congr fun c hc => ?_
      rw [decide_eq_decide]
      refine ⟨fun hlt => Nat.lt_of_lt_of_le hlt hpoint, fun hlt => ?_⟩
      by_contra hnot
      obtain heq | hmem := List.mem_cons.mp (hcs c hc (Nat.not_lt.mp hnot))
      · omega
      · have := hhead _ hmem
        omega
    have hwithin : Within basic point [] cs
        { w with distance := w.distance + (point - least) * (w.count + 1) } r := by
      refine ⟨⟨hfollows.bias, hfollows.count, hfollows.isFirst, hfollows.basic_le, ?_⟩, by rw [hout, hskip]; rfl⟩
      have hdistance := hfollows.distance
      have hrounds : point * (w.count + 1) = least * (w.count + 1) + (point - least) * (w.count + 1) := by
        rw [← Nat.add_mul, Nat.add_sub_cancel' hpoint]
      simp only [List.filter_nil, List.length_nil]
      omega
    obtain ⟨r', hleads, hwithin⟩ := hwithin.visitRest
    rw [Writing.visitAll]
    generalize cs.foldl (Writing.visit basic point) _ = w' at hleads hwithin ⊢
    obtain ⟨hfollows', hout'⟩ := hwithin
    rw [List.nil_append, below, List.filter_nil, List.append_nil] at hout'
    have hbefore : Before basic cs (point + 1) { w' with distance := w'.distance + 1 } r' := by
      refine ⟨⟨hfollows'.bias, hfollows'.count, hfollows'.isFirst, hfollows'.basic_le, ?_⟩, ?_⟩
      · have hdistance := hfollows'.distance
        rw [List.nil_append, ← hout', hfollows'.count] at hdistance
        dsimp only
        rw [Nat.add_mul]
        omega
      · rw [hout']
        exact List.filter_congr fun c _ => by rw [decide_eq_decide, Nat.lt_succ_iff]
    obtain ⟨r'', hleads', hout''⟩ := ih hbefore (fun p hp => hhead p hp) hsorted fun c hc hlt => by
      obtain heq | hmem := List.mem_cons.mp (hcs c hc (hpoint.trans (Nat.le_of_lt hlt)))
      · omega
      · exact hmem
    exact ⟨r'', (hleads.trans (.of_digits_eq rfl)).trans hleads', hout''⟩

/-! ### Whole texts -/

lemma pairwise_lt_eraseDups {ns : List Nat} (h : ns.Pairwise (· ≤ ·)) : ns.eraseDups.Pairwise (· < ·) := by
  induction hlength : ns.length using Nat.strong_induction_on generalizing ns with
  | _ length ih =>
    cases ns with
    | nil => simp
    | cons n ns =>
      obtain ⟨hhead, hrest⟩ := List.pairwise_cons.mp h
      rw [List.eraseDups_cons, List.pairwise_cons]
      constructor
      · intro m hm
        rw [List.mem_eraseDups, List.mem_filter] at hm
        have hle := hhead m hm.1
        have hne : m ≠ n := by simpa using hm.2
        omega
      · refine ih _ ?_ (hrest.filter _) rfl
        rw [← hlength]
        exact Nat.lt_succ_of_le (List.length_filter_le _ _)

lemma mem_points {n : Nat} : n ∈ points cs ↔ 128 ≤ n ∧ ∃ c ∈ cs, c.toNat = n := by
  simp [points, and_comm]

lemma pairwise_points (cs : List Char) : (points cs).Pairwise (· < ·) := by
  refine pairwise_lt_eraseDups ?_
  have hsorted : (((cs.map Char.toNat).filter (128 ≤ ·)).mergeSort fun a b => decide (a ≤ b)).Pairwise
      fun a b => decide (a ≤ b) :=
    List.pairwise_mergeSort (fun a b c => by simp; omega) (fun a b => by simp; omega) _
  simpa using hsorted

/-- The digits behind the ASCII characters lead a reader of these to all characters. -/
lemma exists_digits (cs : List Char) : ∃ digits, (∀ c ∈ digits, IsDigit c) ∧
    encode cs = below 128 cs ++ (if (below 128 cs).isEmpty then [] else ['-']) ++ digits ∧
    readFrom digits.length (below 128 cs) 128 0 72 true digits = some cs := by
  have hbefore : Follows.Before (below 128 cs).length cs 128 ⟨0, 72, (below 128 cs).length, []⟩
      ⟨below 128 cs, 128, 0, 72, true⟩ :=
    ⟨⟨rfl, rfl, by simp, Nat.le_refl _, rfl⟩, rfl⟩
  obtain ⟨r, ⟨digits, hdigits, hdigit, hread⟩, hout⟩ := hbefore.visitAll (fun p hp => (mem_points.mp hp).1)
    (pairwise_points cs) fun c hc hle => mem_points.mpr ⟨hle, c, hc, rfl⟩
  refine ⟨digits, hdigit, ?_, ?_⟩
  · simp only [encode, hdigits, List.append_nil, List.reverse_reverse]
  · have hend := hread []
    rw [List.append_nil] at hend
    exact hend.trans (congrArg some hout)

/-- What is written is read back. -/
theorem decode?_encode (cs : List Char) : decode? (encode cs) = some cs := by
  obtain ⟨digits, hdigit, hencode, hread⟩ := exists_digits cs
  have hdash : ∀ c ∈ digits.reverse, (c != '-') = true := fun c hc =>
    bne_iff_ne.mpr (hdigit c (List.mem_reverse.mp hc)).isPlain.2.2.1
  rw [hencode]
  cases hbasic : below 128 cs with
  | nil =>
    have hbehind : (digits.reverse.takeWhile (· != '-')).reverse = digits := by
      rw [List.takeWhile_eq_self_iff.mpr hdash, List.reverse_reverse]
    rw [hbasic] at hread
    simpa [decode?, hbehind] using hread
  | cons c basic =>
    have hbehind : ((c :: basic ++ ['-'] ++ digits).reverse.takeWhile (· != '-')).reverse = digits := by
      rw [List.reverse_append, List.takeWhile_append_of_pos hdash]
      simp
    have hascii : (c :: basic).any (128 ≤ ·.toNat) = false := by
      rw [← hbasic, List.any_eq_false]
      intro d hd
      simpa using (List.mem_filter.mp hd).2
    have htake : (c :: basic ++ ['-'] ++ digits).take
        ((c :: basic ++ ['-'] ++ digits).length - digits.length - 1) = c :: basic := by
      rw [List.append_assoc, List.take_append_of_le_length (by simp; omega), List.take_of_length_le (by simp; omega)]
    have hlength : digits.length ≠ (c :: basic ++ ['-'] ++ digits).length := by simp; omega
    rw [hbasic] at hread
    simp only [List.isEmpty_cons, Bool.false_eq_true, if_false, decode?, hbehind, hlength, htake, hascii]
    exact hread

/-- ASCII characters of the text, a hyphen, and digits are all that is written. -/
lemma mem_encode {c : Char} (h : c ∈ encode cs) : (c ∈ cs ∧ c.toNat < 128) ∨ c = '-' ∨ IsDigit c := by
  obtain ⟨digits, hdigit, hencode, -⟩ := exists_digits cs
  rw [hencode, List.mem_append, List.mem_append] at h
  obtain (h | h) | h := h
  · exact .inl (by simpa using List.mem_filter.mp h)
  · split_ifs at h
    · cases h
    · exact .inr (.inl (List.mem_singleton.mp h))
  · exact .inr (.inr (hdigit c h))

end OperatorDaemon.Punycode
