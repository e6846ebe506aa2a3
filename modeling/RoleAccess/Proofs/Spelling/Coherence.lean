import RoleAccess.Proofs.Policy.KeyOrder
import RoleAccess.Proofs.Spelling.Names

/-!
# Equality, order and hash of names

Maps and sets find a name again only if its equality, its order and its hash go by the same thing.
All three go by the bytes of the text in small letters: equality compares texts byte by byte, the
order is that of the bytes, and a hash function is fed the bytes and a terminator. No byte of a
UTF-8 text is the terminator, so what is fed for some names is cut at the terminators into the names
again. Keys of permissions are compared part by part, and their order agrees with their equality
because that of names does.
-/

namespace RoleAccess

/-! ## Orders that agree with an equality -/

/-- A total order up to `same`, which puts on one place what is the same. -/
structure Agrees {α : Type} [Ord α] (same : α → α → Bool) : Prop where
  equivalence : Equivalence fun a b => same a b = true
  oriented : ∀ a b : α, compare b a = (compare a b).swap
  total : ∀ a b : α, (compare a b).isLE = true ∨ (compare b a).isLE = true
  transitive : ∀ a b c : α, (compare a b).isLE = true → (compare b c).isLE = true →
    (compare a c).isLE = true
  antisymmetric : ∀ a b : α, (compare a b).isLE = true → (compare b a).isLE = true →
    same a b = true
  equal_iff : ∀ a b : α, compare a b = .eq ↔ same a b = true
  respects : ∀ a a' b b' : α, same a a' = true → same b b' = true → compare a b = compare a' b'

/-- A lawful order agrees with the equality that its equal case is. -/
theorem Agrees.of_equal_iff {α : Type} [Ord α] [Std.TransOrd α] {same : α → α → Bool}
    (h : ∀ a b : α, compare a b = .eq ↔ same a b = true) : Agrees same where
  equivalence := by
    refine ⟨fun a => ?_, fun {a b} hab => ?_, fun {a b c} hab hbc => ?_⟩
    · exact (h a a).1 Std.ReflCmp.compare_self
    · exact (h b a).1 (Std.OrientedCmp.eq_symm ((h a b).2 hab))
    · exact (h a c).1 (Std.TransCmp.eq_trans ((h a b).2 hab) ((h b c).2 hbc))
  oriented _ _ := Std.OrientedCmp.eq_swap
  total a b := by
    rw [@Std.OrientedCmp.eq_swap α compare _ b a]
    cases compare a b <;> decide
  transitive _ _ _ := Std.TransCmp.isLE_trans
  antisymmetric a b hab hba := (h a b).1 (Std.OrientedCmp.isLE_antisymm hab hba)
  equal_iff := h
  respects a a' b b' ha hb := by
    rw [Std.TransCmp.congr_left ((h a a').2 ha), Std.TransCmp.congr_right ((h b b').2 hb)]

/-! ## Bytes of a text -/

namespace Text

/-- The UTF-8 bytes of a text. -/
def bytes (s : String) : List UInt8 :=
  s.toByteArray.data.toList

/-- Byte by byte the same but for the case of ASCII letters. -/
def eqIgnoringCase (s t : String) : Bool :=
  (bytes s).length == (bytes t).length &&
    ((bytes s).zip (bytes t)).all fun (b, c) => lowerByte b == lowerByte c

theorem bytes_eq (s : String) : bytes s = s.toList.flatMap String.utf8EncodeChar := by
  conv_lhs => rw [← String.ofList_toList (s := s)]
  rw [bytes, String.toByteArray_ofList, List.utf8Encode, List.toList_data_toByteArray]

theorem terminator_notMem_utf8EncodeChar (c : Char) : 0xFF ∉ String.utf8EncodeChar c := by
  -- the first byte of a long character is below 248, and those behind it are below 192
  have hne : ∀ n < 255, (0xFF : UInt8) ≠ UInt8.ofNat n := by
    intro n hn heq
    have hnat := congrArg UInt8.toNat heq
    rw [UInt8.toNat_ofNat_of_lt' (Nat.lt_succ_of_lt hn)] at hnat
    exact Nat.ne_of_gt hn hnat
  unfold String.utf8EncodeChar
  dsimp only
  split
  · exact List.not_mem_cons_of_ne_of_not_mem (hne _ (by omega)) List.not_mem_nil
  split
  · simp only [List.mem_cons, List.not_mem_nil, or_false, not_or]
    exact ⟨hne _ (by omega), hne _ (by omega)⟩
  split
  · simp only [List.mem_cons, List.not_mem_nil, or_false, not_or]
    exact ⟨hne _ (by omega), hne _ (by omega), hne _ (by omega)⟩
  · simp only [List.mem_cons, List.not_mem_nil, or_false, not_or]
    exact ⟨hne _ (by omega), hne _ (by omega), hne _ (by omega), hne _ (by omega)⟩

/-- No byte of a UTF-8 text is the terminator. -/
theorem terminator_notMem_bytes (s : String) : 0xFF ∉ bytes s := by
  rw [bytes_eq, List.mem_flatMap]
  rintro ⟨c, -, hc⟩
  exact terminator_notMem_utf8EncodeChar c hc

end Text

/-- Bytes of equal number are the same in small letters iff they are so place by place. -/
theorem all_zip_iff_map_lowerByte_eq : ∀ {bs cs : List UInt8}, bs.length = cs.length →
    (((bs.zip cs).all fun (b, c) => lowerByte b == lowerByte c) = true ↔
      bs.map lowerByte = cs.map lowerByte)
  | [], [], _ => by simp
  | b :: bs, c :: cs, hlength => by
    have ih := all_zip_iff_map_lowerByte_eq (Nat.succ.inj hlength)
    rw [List.zip_cons_cons, List.all_cons, Bool.and_eq_true, ih, beq_iff_eq, List.map_cons,
      List.map_cons, List.cons.injEq]

namespace Name

theorem folded_eq_bytes (n : Name) : n.folded = (Text.bytes n.text).map lowerByte := by
  rw [folded, Text.bytes_eq]

/-- Names are the same when their texts are so byte by byte. -/
theorem same_eq_eqIgnoringCase (a b : Name) : a.same b = Text.eqIgnoringCase a.text b.text := by
  rw [Bool.eq_iff_iff, same_iff, folded_eq_bytes, folded_eq_bytes, Text.eqIgnoringCase,
    Bool.and_eq_true, beq_iff_eq]
  constructor
  · intro h
    have hlength : (Text.bytes a.text).length = (Text.bytes b.text).length := by
      simpa only [List.length_map] using congrArg List.length h
    exact ⟨hlength, (all_zip_iff_map_lowerByte_eq hlength).2 h⟩
  · rintro ⟨hlength, hall⟩
    exact (all_zip_iff_map_lowerByte_eq hlength).1 hall

/-! ## Hashing -/

/-- A name is fed to a hash function byte by byte, and then the terminator. -/
def feed {σ : Type} (write : σ → UInt8 → σ) (state : σ) (n : Name) : σ :=
  write ((Text.bytes n.text).foldl (fun state b => write state (lowerByte b)) state) 0xFF

/-- The bytes that a hash function has been fed after some names. -/
def stream (ns : List Name) : List UInt8 :=
  ns.foldl (feed fun written b => written ++ [b]) []

theorem feed_eq_foldl_hashBytes {σ : Type} (write : σ → UInt8 → σ) (state : σ) (n : Name) :
    n.feed write state = n.hashBytes.foldl write state := by
  rw [feed, hashBytes, folded_eq_bytes, List.foldl_append, List.foldl_map, List.foldl_cons,
    List.foldl_nil]

theorem foldl_feed {σ : Type} (write : σ → UInt8 → σ) (ns : List Name) (state : σ) :
    ns.foldl (feed write) state = (ns.flatMap hashBytes).foldl write state := by
  induction ns generalizing state with
  | nil => rfl
  | cons n ns ih =>
    rw [List.foldl_cons, ih, feed_eq_foldl_hashBytes, List.flatMap_cons, List.foldl_append]

theorem stream_eq (ns : List Name) : stream ns = ns.flatMap hashBytes := by
  rw [stream, foldl_feed, List.foldl_append_eq_append, List.nil_append, ← List.flatMap_def,
    List.flatMap_singleton']

theorem terminator_notMem_folded (n : Name) : 0xFF ∉ n.folded := by
  rw [folded_eq_of_lower, ← Text.bytes_eq]
  exact Text.terminator_notMem_bytes n.lower.text

/-- What is fed for a name ends at its terminator. -/
theorem hashBytes_append_inj {a b : Name} {rest rest' : List UInt8} :
    a.hashBytes ++ rest = b.hashBytes ++ rest' ↔ a.same b = true ∧ rest = rest' := by
  rw [hashBytes, hashBytes, List.append_assoc, List.append_assoc, same_iff]
  constructor
  · intro h
    -- the first terminator stands right behind the name
    have hlength : a.folded.length = b.folded.length := by
      have hplace := congrArg (List.idxOf 0xFF) h
      rwa [List.idxOf_append_of_notMem a.terminator_notMem_folded,
        List.idxOf_append_of_notMem b.terminator_notMem_folded, List.singleton_append,
        List.singleton_append, List.idxOf_cons_self, List.idxOf_cons_self, Nat.add_zero,
        Nat.add_zero] at hplace
    obtain ⟨hfolded, hrest⟩ := List.append_inj h hlength
    exact ⟨hfolded, List.append_cancel_left hrest⟩
  · rintro ⟨hfolded, rfl⟩
    rw [hfolded]

/-- Names feed the same bytes iff they are the same names one after the other. -/
theorem stream_eq_stream_iff (as bs : List Name) :
    stream as = stream bs ↔ List.Forall₂ (fun a b => a.same b = true) as bs := by
  rw [stream_eq, stream_eq]
  induction as generalizing bs with
  | nil =>
    cases bs with
    | nil => simp
    | cons b bs => simp [hashBytes]
  | cons a as ih =>
    cases bs with
    | nil => simp [hashBytes]
    | cons b bs =>
      rw [List.flatMap_cons, List.flatMap_cons, hashBytes_append_inj, ih, List.forall₂_cons]

-- the terminator keeps names apart whose texts join to the same text
example : stream [⟨"ab"⟩, ⟨"c"⟩] ≠ stream [⟨"a"⟩, ⟨"bc"⟩] := by decide

end Name

/-! ## Agreement -/

/-- Names and keys are totally ordered up to their equality. Names are equal when they have the same
characters but for the case of ASCII letters, all comparisons of names go by the bytes in small
letters, and what is fed to a hash function for a list of names says which names they are and in
which order, and no more. -/
theorem equality_order_and_hash_agree :
    Agrees Name.same ∧ Agrees PermissionKey.same ∧
    (∀ a b : Name, a.same b = true ↔
      a.text.toList.map Text.lowerAscii = b.text.toList.map Text.lowerAscii) ∧
    (∀ a b : Name, a.same b = Text.eqIgnoringCase a.text b.text) ∧
    (∀ a b : Name, compare a b = .eq ↔
      (Text.bytes a.text).map lowerByte = (Text.bytes b.text).map lowerByte) ∧
    (∀ n : Name, 0xFF ∉ Text.bytes n.text) ∧
    (∀ as bs : List Name, Name.stream as = Name.stream bs ↔
      List.Forall₂ (fun a b => a.same b = true) as bs) ∧
    ∀ (σ : Type) (write : σ → UInt8 → σ) (state : σ) (ns : List Name),
      ns.foldl (Name.feed write) state = (Name.stream ns).foldl write state := by
  refine ⟨.of_equal_iff fun _ _ => Name.compare_eq_iff,
    .of_equal_iff fun _ _ => PermissionKey.compare_eq_iff, fun a b => ?_,
    Name.same_eq_eqIgnoringCase, fun a b => ?_, fun n => Text.terminator_notMem_bytes n.text,
    Name.stream_eq_stream_iff, fun σ write state ns => ?_⟩
  · have hascii : a.same b = Text.sameAscii a.text b.text :=
      (Name.sameAscii_eq_same a.text b.text).symm
    rw [hascii, Text.sameAscii, beq_iff_eq]
  · rw [Name.compare_eq_iff, Name.same_iff, Name.folded_eq_bytes, Name.folded_eq_bytes]
  · rw [Name.foldl_feed, Name.stream_eq]

end RoleAccess
