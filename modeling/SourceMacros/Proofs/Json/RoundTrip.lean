import SourceMacros.Context
import SourceMacros.Proofs.Declaration.Codec
import SourceMacros.Proofs.TypeDescriptor.Codec

/-! Every value is decoded from the text that it is encoded to, and from every other text that spells its
encoding, as long as the encoding nests no deeper than JSON may: `decode_encode`. -/

namespace SourceMacros

open Json (Fault Draft)

namespace Config

theorem small_toJson (c : Config) : c.toJson.Small :=
  ⟨trivial, ⟨trivial, small_ofOption_string _, trivial, trivial⟩, trivial⟩

theorem ofDraft_toJson (c : Config) {levels : Nat} (h : c.toJson.depth ≤ levels) :
    ofDraft levels c.toJson.draft = .ok c := by
  obtain ⟨policy, accessorName, executor, skipExisting⟩ := c
  have hlevels : ∃ n, levels = n + 2 := by
    have hdepth : 2 ≤ (toJson ⟨policy, accessorName, executor, skipExisting⟩).depth := by
      simp [toJson, SingletonConfig.toJson, Json.depth, Json.membersDepth]
    exact ⟨levels - 2, by omega⟩
  obtain ⟨levels, rfl⟩ := hlevels
  cases policy <;> cases executor <;> rfl

end Config

namespace Location

theorem small_toJson (l : Location) : l.toJson.Small := by
  have hword : ∀ w : UInt32, (Json.integer w.toNat).Small := fun w =>
    (Int.natAbs_natCast w.toNat).trans_lt (w.toNat_lt.trans (by decide))
  exact ⟨trivial, hword l.line, hword l.column, trivial⟩

theorem readWord32_toNat (w : UInt32) : Draft.readWord32 (.integer w.toNat) = .ok w := by
  have hrange : (0 : Int) ≤ w.toNat ∧ (w.toNat : Int) < Int.pow 2 32 :=
    ⟨Int.natCast_nonneg _, Int.ofNat_lt.2 w.toNat_lt⟩
  rw [Draft.readWord32]
  simp only [Bool.and_eq_true, decide_eq_true_eq, if_pos hrange, Int.toNat_natCast]
  exact congrArg Except.ok (UInt32.ofNat_toNat)

theorem ofDraft_toJson (l : Location) {levels : Nat} (h : l.toJson.depth ≤ levels) :
    ofDraft levels l.toJson.draft = .ok l := by
  obtain ⟨file, line, column⟩ := l
  obtain ⟨levels, rfl⟩ := Nat.exists_eq_succ_of_ne_zero (Nat.ne_zero_of_lt h)
  have hrecord : Draft.readRecord fields false {} (levels + 1) (toJson ⟨file, line, column⟩).draft =
      .ok ⟨some file, some line, some column⟩ := by
    refine Json.readRecord_object ?_
    rw [Json.memberDrafts, Json.members_put (⟨some file, none, none⟩ : Known) rfl rfl rfl,
      Json.memberDrafts, Json.members_put (⟨some file, some line, none⟩ : Known) rfl rfl,
      Json.memberDrafts, Json.members_put (⟨some file, some line, some column⟩ : Known) rfl rfl]
    · rfl
    · change (Draft.readWord32 (.integer column.toNat) >>= _) = _
      rw [readWord32_toNat]
      rfl
    · change (Draft.readWord32 (.integer line.toNat) >>= _) = _
      rw [readWord32_toNat]
      rfl
  rw [ofDraft, hrecord]
  rfl

end Location

namespace Json

section RoundTrips

variable {α : Type} {encode : α → Json} {decode : Nat → Draft → Except Fault α}

/-- A value is decoded from the text that is written for its encoding, and from every text that spells the
encoding, if that nests no deeper than may be read. -/
def RoundTrips (encode : α → Json) (decode : Nat → Draft → Except Fault α) : Prop :=
  ∀ a, (encode a).depth ≤ levels →
    look (decode levels) (encode a).render = .ok a ∧
      ∀ text : String, (encode a).Layout text.toList → look (decode levels) text = .ok a

theorem roundTrips (hsmall : ∀ a, (encode a).Small)
    (hdraft : ∀ a {n : Nat}, (encode a).depth ≤ n → decode n (encode a).draft = .ok a) :
    RoundTrips encode decode := by
  intro a ha
  have hlook : ∀ text : String, (encode a).Layout text.toList → look (decode levels) text = .ok a :=
    fun text htext => (look_of_layout (decode levels) htext).trans (hdraft a ha)
  exact ⟨hlook _ (layout_render (hsmall a)), hlook⟩

end RoundTrips

/-- Syntax, types, configurations and locations are decoded from what they are encoded to. -/
theorem decode_encode :
    RoundTrips Expression.toJson Expression.ofDraft ∧
    RoundTrips Invocation.toJson Invocation.ofDraft ∧
    RoundTrips Declaration.toJson Declaration.ofDraft ∧
    RoundTrips TypeDescriptor.toJson TypeDescriptor.ofDraft ∧
    RoundTrips Attribute.toJson Attribute.ofDraft ∧
    RoundTrips Config.toJson Config.ofDraft ∧
    RoundTrips Location.toJson Location.ofDraft :=
  ⟨roundTrips Expression.small_toJson Expression.ofDraft_toJson,
    roundTrips Invocation.small_toJson Invocation.ofDraft_toJson,
    roundTrips Declaration.small_toJson Declaration.ofDraft_toJson,
    roundTrips TypeDescriptor.small_toJson TypeDescriptor.ofDraft_toJson,
    roundTrips Attribute.small_toJson Attribute.ofDraft_toJson,
    roundTrips Config.small_toJson Config.ofDraft_toJson,
    roundTrips Location.small_toJson Location.ofDraft_toJson⟩

/-- A text with a quote and a line end, and an attribute with blanks between its parts. -/
theorem decode_encode_samples :
    look (Expression.ofDraft levels) "\x7b\"kind\":\"other\",\"text\":\"\\\"\\n\"\x7d" =
      .ok (.other "\"\n") ∧
    look (Attribute.ofDraft levels) "\x7b \"name\" : \"a\"\n\x7d" = .ok ⟨"a"⟩ := by
  have hrender : (Expression.other "\"\n").toJson.render =
      "\x7b\"kind\":\"other\",\"text\":\"\\\"\\n\"\x7d" := by decide +kernel
  have hblank : Blanks [' '] := by simp [Blanks, isJsonBlank]
  have hline : Blanks ['\n'] := by simp [Blanks, isJsonBlank]
  have hlayout : (Attribute.toJson ⟨"a"⟩).Layout "\x7b \"name\" : \"a\"\n\x7d".toList :=
    ⟨[], _, [], Blanks.nil, Blanks.nil, ⟨_, rfl, [' '], [' '], [' '], _, _, hblank, hblank, hblank, rfl,
      ⟨['\n'], hline, rfl⟩, rfl⟩, rfl⟩
  obtain ⟨hexpression, -, -, -, hattribute, -, -⟩ := decode_encode
  rw [← hrender]
  exact ⟨(hexpression _ (by decide)).1, (hattribute _ (by decide)).2 _ hlayout⟩

end Json

end SourceMacros
