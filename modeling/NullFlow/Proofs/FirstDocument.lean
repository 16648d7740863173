import NullFlow.Metadata.Decoder
import NullFlow.Proofs.LocalDecoders

namespace NullFlow

open Json Json.Decoder
open Text (Bytes)

namespace Json

variable {α σ : Type}

theorem IsLocalFields.nil : IsLocalFields ([] : List (Field σ)) := nofun

theorem IsLocalFields.must {decoder : Decoder α} (h : decoder.IsLocal) {name : String}
    {set : α → σ → σ} {fields : List (Field σ)} (hfields : IsLocalFields fields) :
    IsLocalFields (.must name decoder set :: fields) :=
  List.forall_mem_cons.2 ⟨h.map set, hfields⟩

theorem IsLocalFields.may {decoder : Decoder α} (h : decoder.IsLocal) {name : String}
    {set : α → σ → σ} {fields : List (Field σ)} (hfields : IsLocalFields fields) :
    IsLocalFields (.may name decoder set :: fields) :=
  List.forall_mem_cons.2 ⟨h.map set, hfields⟩

theorem Decoder.integer_isLocal (expected : String) (least greatest : Int) :
    (integer expected least greatest).IsLocal :=
  number_isLocal expected _

theorem Decoder.nat32_isLocal : nat32.IsLocal := IsLocal.map (integer_isLocal _ _ _) _

theorem Decoder.nat64_isLocal : nat64.IsLocal := IsLocal.map (integer_isLocal _ _ _) _

theorem Decoder.run_firstDocument {decoder : Decoder α} (h : Closes 1 Prod.mk (decoder maxDepth))
    {s : Bytes} {a : α} (hs : decoder.run s = .ok a) :
    ∃ document rest, s = document ++ rest ∧ (∀ tail, decoder.run (document ++ tail) = .ok a) ∧
      ∀ part, part <+: document → part ≠ document → ∃ e, decoder.run part = .error e := by
  obtain ⟨⟨_, rest⟩, hread, rfl⟩ := map_eq_ok.1 hs
  obtain ⟨document, hsplit, _, hdocument⟩ := h hread
  refine ⟨document, rest, hsplit, fun tail => map_eq_ok.2 ⟨_, (hdocument tail trivial).2, rfl⟩, ?_⟩
  rintro part ⟨left, rfl⟩ hne
  cases hpart : decoder.run part with
  | error e => exact ⟨e, rfl⟩
  | ok b =>
      -- Read on its own, the part would leave less of the document than the document does.
      exfalso
      obtain ⟨⟨_, rest'⟩, hread', rfl⟩ := map_eq_ok.1 hpart
      obtain ⟨shorter, rfl, _, hshorter⟩ := h hread'
      have hwhole := (hdocument [] trivial).2
      rw [List.append_assoc, List.append_assoc, (hshorter _ trivial).2] at hwhole
      obtain ⟨-, hleft⟩ := Prod.mk.inj (Except.ok.inj hwhole)
      simp only [List.append_eq_nil_iff] at hleft
      exact hne (by rw [hleft.2.1, List.append_nil])

end Json

theorem TypeRef.decoder_isLocal : TypeRef.decoder.IsLocal :=
  record_isLocal (.must text_isLocal <| .may bool_isLocal .nil) _ _

theorem ParameterRef.decoder_isLocal : ParameterRef.decoder.IsLocal :=
  record_isLocal (.must TypeRef.decoder_isLocal .nil) _ _

theorem MethodRef.decoder_isLocal : MethodRef.decoder.IsLocal :=
  record_isLocal (.must text_isLocal <| .may text_isLocal <| .may bool_isLocal <|
    .may ParameterRef.decoder_isLocal.list <| .must TypeRef.decoder_isLocal <|
    .may bool_isLocal .nil) _ _

theorem FieldRef.decoder_isLocal : FieldRef.decoder.IsLocal :=
  record_isLocal (.must text_isLocal <| .must text_isLocal <| .must TypeRef.decoder_isLocal <|
    .may bool_isLocal .nil) _ _

theorem Operand.decoder_isLocal : Operand.decoder.IsLocal := by
  refine variant_isLocal fun name decoder h => ?_
  simp only [List.mem_cons, Prod.mk.injEq, Variant.content.injEq, reduceCtorEq, and_false, false_or,
    List.not_mem_nil, or_false] at h
  rcases h with ⟨_, rfl⟩ | ⟨_, rfl⟩ | ⟨_, rfl⟩ | ⟨_, rfl⟩ | ⟨_, rfl⟩ | ⟨_, rfl⟩ | ⟨_, rfl⟩ |
    ⟨_, rfl⟩ | ⟨_, rfl⟩ | ⟨_, rfl⟩ | ⟨_, rfl⟩
  · exact IsLocal.map (integer_isLocal _ _ _) _
  · exact (number_isLocal _ _).map _
  · exact text_isLocal.map _
  · exact nat64_isLocal.map _
  · exact nat64_isLocal.map _
  · exact nat32_isLocal.map _
  · exact nat32_isLocal.list.map _
  · exact MethodRef.decoder_isLocal.map _
  · exact FieldRef.decoder_isLocal.map _
  · exact TypeRef.decoder_isLocal.map _
  · exact MethodRef.decoder_isLocal.map _

theorem Instruction.decoder_isLocal : Instruction.decoder.IsLocal :=
  record_isLocal (.must nat32_isLocal <| .must (text_isLocal.map _) <|
    .may Operand.decoder_isLocal .nil) _ _

theorem HandlerKind.decoder_isLocal : HandlerKind.decoder.IsLocal :=
  variant_isLocal fun name decoder h => by simp at h

theorem ExceptionHandler.decoder_isLocal : ExceptionHandler.decoder.IsLocal :=
  record_isLocal (.must HandlerKind.decoder_isLocal <| .must nat32_isLocal <| .must nat32_isLocal <|
    .must nat32_isLocal <| .must nat32_isLocal <| .may nat32_isLocal.option .nil) _ _

theorem LocalDef.decoder_isLocal : LocalDef.decoder.IsLocal :=
  record_isLocal (.must TypeRef.decoder_isLocal .nil) _ _

theorem MethodBody.decoder_isLocal : MethodBody.decoder.IsLocal :=
  record_isLocal (.must nat64_isLocal <| .may LocalDef.decoder_isLocal.list <|
    .may Instruction.decoder_isLocal.list <| .may ExceptionHandler.decoder_isLocal.list .nil) _ _

theorem Attributes.decoder_isLocal : Attributes.decoder.IsLocal :=
  IsLocal.list (record_isLocal (.may text_isLocal.option .nil) _ _)

theorem ParameterDef.decoder_isLocal : ParameterDef.decoder.IsLocal :=
  record_isLocal (.may text_isLocal <| .must TypeRef.decoder_isLocal <|
    .may Attributes.decoder_isLocal .nil) _ _

theorem FieldDef.decoder_isLocal : FieldDef.decoder.IsLocal :=
  record_isLocal (.must text_isLocal <| .must TypeRef.decoder_isLocal <|
    .may Attributes.decoder_isLocal .nil) _ _

theorem MethodDef.decoder_isLocal : MethodDef.decoder.IsLocal :=
  record_isLocal (.must text_isLocal <| .must TypeRef.decoder_isLocal <| .may bool_isLocal <|
    .may ParameterDef.decoder_isLocal.list <| .may Attributes.decoder_isLocal <|
    .may MethodBody.decoder_isLocal.option .nil) _ _

theorem TypeDef.decoder_isLocal (levels : Nat) : (TypeDef.decoder levels).IsLocal := by
  induction levels with
  | zero => exact fun _ => Local.error
  | succ levels ih =>
      exact record_isLocal (.must text_isLocal <| .may FieldDef.decoder_isLocal.list <|
        .may MethodDef.decoder_isLocal.list <| .may ih.list .nil) _ _

theorem Module.decoder_isLocal : Module.decoder.IsLocal :=
  record_isLocal (.must text_isLocal <| .may (TypeDef.decoder_isLocal _).list .nil) _ _

theorem Assembly.decoder_closes (depth : Nat) : Closes 1 Prod.mk (Assembly.decoder depth) :=
  record_closes (.must text_isLocal <| .may Module.decoder_isLocal.list .nil) _ _ _

/-- A dump that can be decoded starts with a document that is decoded to the same assembly before
anything at all, and no shorter text can be decoded. So what follows the dump does not matter. -/
theorem Assembly.decode_firstDocument {dump : Bytes} {assembly : Assembly}
    (h : Assembly.decode dump = .ok assembly) :
    (∀ tail, Assembly.decode (dump ++ tail) = .ok assembly) ∧
      ∃ document rest, dump = document ++ rest ∧
        (∀ tail, Assembly.decode (document ++ tail) = .ok assembly) ∧
        ∀ part, part <+: document → part ≠ document → ∃ e, Assembly.decode part = .error e := by
  obtain ⟨document, rest, rfl, htail, hpart⟩ := run_firstDocument (Assembly.decoder_closes _) h
  refine ⟨fun tail => ?_, document, rest, rfl, htail, hpart⟩
  rw [List.append_assoc]
  exact htail (rest ++ tail)

def garbledDump : Bytes :=
  "[\"a\", [[\"m\", [\x7b\"full_name\": \"T\", \"kind\": [1.5e3, \"\\ud800\"],
    \"methods\": [[\"M\", [\"System.Void\"], false, [], [],
      [8, [], [[0, \"ldc.i4\", \x7b\"int\": -7\x7d], [5, \"ret\"]]]]],
    \"nested_types\": [[\"T/N\"]]\x7d]]]] nul".toUTF8.data.toList

theorem Assembly.decode_garbledDump :
    let body : MethodBody := ⟨8, [], [⟨0, .ldcI4, .int (-7)⟩, ⟨5, .ret, .none⟩], []⟩
    ∃ assembly, Assembly.decode garbledDump = .ok assembly ∧
      assembly.modules.map (fun m => m.types.map TypeDef.methods) =
        [[[⟨"M", ⟨"System.Void", false⟩, false, [], [], some body⟩]]] ∧
      Assembly.decode (garbledDump ++ [0xFF, 0x7B]) = .ok assembly := by
  intro body
  have htest : (match Assembly.decode garbledDump with
      | .ok assembly => decide (assembly.modules.map (fun m => m.types.map TypeDef.methods) =
          [[[⟨"M", ⟨"System.Void", false⟩, false, [], [], some
            ⟨8, [], [⟨0, .ldcI4, .int (-7)⟩, ⟨5, .ret, .none⟩], []⟩⟩]]])
      | .error _ => false) = true := by decide +kernel
  cases h : Assembly.decode garbledDump with
  | error e => simp only [h, Bool.false_eq_true] at htest
  | ok assembly =>
      simp only [h, decide_eq_true_eq] at htest
      exact ⟨assembly, rfl, htest, (decode_firstDocument h).1 [0xFF, 0x7B]⟩

end NullFlow
