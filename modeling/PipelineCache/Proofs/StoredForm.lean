import PipelineCache.Key

/-! The stored form of a key, field by field. A key is a list of fields, words and digests, in the order
in which its parts are declared. Its stored form is the bytes of these fields, one after the other and
without a gap, a word with its lowest byte in front. Keys, lists of fields and byte strings of the right
length correspond one to one, so what is computed from the bytes knows a key as well as its fields do. -/

namespace PipelineCache

inductive FieldKind
  | word
  | digest
  deriving DecidableEq

inductive Field
  | word (value : UInt32)
  | digest (value : Vector UInt8 32)
  deriving DecidableEq

namespace Field

def kind : Field → FieldKind
  | word _ => .word
  | digest _ => .digest

/-- The bytes of a field; those of a word begin with the lowest. -/
def bytes : Field → Bytes
  | word value =>
      [value.toUInt8, (value >>> 8).toUInt8, (value >>> 16).toUInt8, (value >>> 24).toUInt8]
  | digest value => value.toList

end Field

/-! ### Fields and layouts -/

theorem Codec.encode_word (value : UInt32) : word.encode value = (Field.word value).bytes := by
  have digit (shift : UInt32) (small : shift.toNat < 32) :
      UInt8.ofNat (value.toNat / 2 ^ shift.toNat % 256) = (value >>> shift).toUInt8 := by
    apply UInt8.toNat_inj.mp
    rw [UInt8.toNat_ofNat', UInt32.toNat_toUInt8, UInt32.toNat_shiftRight, Nat.mod_eq_of_lt small,
      Nat.shiftRight_eq_div_pow, Nat.mod_mod]
  have lowest : UInt8.ofNat (value.toNat % 256) = value.toUInt8 := by
    apply UInt8.toNat_inj.mp
    rw [UInt8.toNat_ofNat', UInt32.toNat_toUInt8, Nat.mod_mod]
  simp only [word, Bytes.ofNat, Nat.div_div_eq_div_mul, lowest]
  rw [Field.bytes, ← digit 8 (by decide), ← digit 16 (by decide), ← digit 24 (by decide)]
  rfl

namespace Field

theorem length_bytes {first second : Field} (kinds : first.kind = second.kind) :
    first.bytes.length = second.bytes.length := by
  cases first <;> cases second <;> simp_all [kind, bytes]

theorem bytes_inj {first second : Field} (kinds : first.kind = second.kind)
    (same : first.bytes = second.bytes) : first = second := by
  cases first with
  | word value =>
      cases second with
      | digest other => cases kinds
      | word other =>
          rw [← Codec.encode_word, ← Codec.encode_word] at same
          have read := Codec.lawful_word.decode_encode value []
          rw [same, Codec.lawful_word.decode_encode] at read
          rw [read]
  | digest value =>
      cases second with
      | word other => cases kinds
      | digest other => rw [Vector.toList_inj.mp same]

theorem length_flatMap_bytes {first second : List Field}
    (kinds : first.map kind = second.map kind) :
    (first.flatMap bytes).length = (second.flatMap bytes).length := by
  induction first generalizing second with
  | nil =>
      cases second with
      | nil => rfl
      | cons other others => cases kinds
  | cons field fields ih =>
      cases second with
      | nil => cases kinds
      | cons other others =>
          obtain ⟨head, tail⟩ := List.cons.inj kinds
          simp only [List.flatMap_cons, List.length_append, length_bytes head, ih tail]

/-- Two lists of fields of the same kinds are told apart by their bytes. -/
theorem flatMap_bytes_inj {first second : List Field} (kinds : first.map kind = second.map kind)
    (same : first.flatMap bytes = second.flatMap bytes) : first = second := by
  induction first generalizing second with
  | nil =>
      cases second with
      | nil => rfl
      | cons other others => cases kinds
  | cons field fields ih =>
      cases second with
      | nil => cases kinds
      | cons other others =>
          obtain ⟨head, tail⟩ := List.cons.inj kinds
          obtain ⟨front, rest⟩ := List.append_inj same (length_bytes head)
          rw [bytes_inj head front, ih tail rest]

end Field

namespace Codec

variable {α β : Type} {codec : Codec α} {fields : α → List Field}

/-- The codec writes the fields of a value one after the other. All values have fields of the same
kinds. -/
structure Lays (codec : Codec α) (fields : α → List Field) : Prop where
  encode (value : α) : codec.encode value = (fields value).flatMap Field.bytes
  kinds (first second : α) : (fields first).map Field.kind = (fields second).map Field.kind

theorem lays_word : word.Lays fun value => [.word value] where
  encode value := by rw [encode_word, List.flatMap_singleton]
  kinds _ _ := rfl

theorem lays_digest : (byte.vector 32).Lays fun value => [.digest value] where
  encode value := by
    rw [List.flatMap_singleton]
    exact List.flatMap_singleton' value.toList
  kinds _ _ := rfl

theorem Lays.pair {second : Codec β} {others : β → List Field} (left : codec.Lays fields)
    (right : second.Lays others) :
    (codec.pair second).Lays fun value => fields value.1 ++ others value.2 where
  encode value := by
    rw [List.flatMap_append, ← left.encode, ← right.encode]
    rfl
  kinds first second := by
    rw [List.map_append, List.map_append, left.kinds first.1 second.1, right.kinds first.2 second.2]

theorem Lays.map (lays : codec.Lays fields) (build : α → β) (parts : β → α) :
    (codec.map build parts).Lays fun value => fields (parts value) where
  encode value := lays.encode (parts value)
  kinds first second := lays.kinds (parts first) (parts second)

theorem Lays.vector (lays : codec.Lays fields) (count : Nat) :
    (codec.vector count).Lays fun values : Vector α count => values.toList.flatMap fields where
  encode values := by
    have encode : codec.encode = fun value => (fields value).flatMap Field.bytes :=
      funext lays.encode
    rw [List.flatMap_assoc, ← encode]
    rfl
  kinds first second := by
    -- Item by item the kinds are the same, and both vectors have as many items.
    have uniform (values : List α) (value : α) : (values.flatMap fields).map Field.kind =
        (List.replicate values.length ((fields value).map Field.kind)).flatten := by
      induction values with
      | nil => rfl
      | cons item items ih =>
          rw [List.flatMap_cons, List.map_append, ih, lays.kinds item value, List.length_cons,
            List.replicate_succ, List.flatten_cons]
    cases listed : first.toList with
    | nil =>
        have empty : second.toList = [] := by
          apply List.eq_nil_of_length_eq_zero
          rw [second.length_toList, ← first.length_toList, listed, List.length_nil]
        rw [empty]
    | cons item items =>
        rw [← listed, uniform first.toList item, uniform second.toList item, first.length_toList,
          second.length_toList]

/-- Any fields of the right kinds are the fields of a value. -/
theorem Lays.exists_of_kinds (lays : codec.Lays fields) (lawful : codec.Lawful) (value : α)
    {listed : List Field} (kinds : listed.map Field.kind = (fields value).map Field.kind) :
    ∃ changed, fields changed = listed := by
  have length : (listed.flatMap Field.bytes).length = codec.size := by
    rw [Field.length_flatMap_bytes kinds, ← lays.encode, lawful.length_encode]
  have written := lawful.encode_decode (listed.flatMap Field.bytes) (Nat.le_of_eq length.symm)
  rw [List.take_of_length_le (Nat.le_of_eq length), lays.encode] at written
  exact ⟨_, Field.flatMap_bytes_inj ((lays.kinds _ value).trans kinds.symm) written⟩

end Codec

/-! ### The fields of a key -/

theorem Choice.lays {enumeration : Enumeration} :
    (Choice.codec : Codec (Choice enumeration)).Lays fun choice => [.word choice.raw] :=
  Codec.lays_word.map Choice.mk Choice.raw

def ShaderKey.fields (key : ShaderKey) : List Field :=
  [.word key.stageNumber, .word key.marker, .digest key.sha256]

theorem ShaderKey.lays : codec.Lays fields :=
  (Codec.lays_word.pair (Codec.lays_word.pair Codec.lays_digest)).map _ _

def InputAssembly.fields (assembly : InputAssembly) : List Field :=
  [.word assembly.topology.raw, .word assembly.primitiveRestart.raw,
    .word assembly.patchVertexCount]

theorem InputAssembly.lays : codec.Lays fields :=
  (Choice.lays.pair (Choice.lays.pair Codec.lays_word)).map _ _

def VertexAttribute.fields (entry : VertexAttribute) : List Field :=
  [.word entry.location, .word entry.binding, .word entry.format.raw, .word entry.offset]

theorem VertexAttribute.lays : codec.Lays fields :=
  (Codec.lays_word.pair (Codec.lays_word.pair (Choice.lays.pair Codec.lays_word))).map _ _

def VertexBinding.fields (entry : VertexBinding) : List Field :=
  [.word entry.binding, .word entry.stride, .word entry.inputRate.raw, .word entry.divisor]

theorem VertexBinding.lays : codec.Lays fields :=
  (Codec.lays_word.pair (Codec.lays_word.pair (Choice.lays.pair Codec.lays_word))).map _ _

def VertexInput.fields (input : VertexInput) : List Field :=
  [.word input.attributeCount, .word input.bindingCount] ++
    (input.attributeTable.toList.flatMap VertexAttribute.fields ++
      input.bindingTable.toList.flatMap VertexBinding.fields)

theorem VertexInput.lays : codec.Lays fields :=
  (Codec.lays_word.pair (Codec.lays_word.pair ((VertexAttribute.lays.vector capacity).pair
    (VertexBinding.lays.vector capacity)))).map _ _

def Rasterizer.fields (rasterizer : Rasterizer) : List Field :=
  [.word rasterizer.depthClampEnable.raw, .word rasterizer.depthBiasEnable.raw,
    .word rasterizer.polygonMode.raw, .word rasterizer.cullMode.raw,
    .word rasterizer.frontFace.raw, .word rasterizer.viewportCount]

theorem Rasterizer.lays : codec.Lays fields :=
  (Choice.lays.pair (Choice.lays.pair (Choice.lays.pair (Choice.lays.pair
    (Choice.lays.pair Codec.lays_word))))).map _ _

def Multisample.fields (multisample : Multisample) : List Field :=
  [.word multisample.sampleCount, .word multisample.sampleMask,
    .word multisample.alphaToCoverage.raw, .word multisample.alphaToOne.raw]

theorem Multisample.lays : codec.Lays fields :=
  (Codec.lays_word.pair (Codec.lays_word.pair (Choice.lays.pair Choice.lays))).map _ _

def StencilFace.fields (face : StencilFace) : List Field :=
  [.word face.failOp.raw, .word face.passOp.raw, .word face.depthFailOp.raw,
    .word face.compareOp.raw, .word face.compareMask, .word face.writeMask, .word face.reference]

theorem StencilFace.lays : codec.Lays fields :=
  (Choice.lays.pair (Choice.lays.pair (Choice.lays.pair (Choice.lays.pair
    (Codec.lays_word.pair (Codec.lays_word.pair Codec.lays_word)))))).map _ _

def DepthStencil.fields (depthStencil : DepthStencil) : List Field :=
  [.word depthStencil.depthTest.raw, .word depthStencil.depthWrite.raw,
    .word depthStencil.stencilTest.raw, .word depthStencil.depthCompareOp.raw] ++
    (depthStencil.front.fields ++ depthStencil.back.fields)

theorem DepthStencil.lays : codec.Lays fields :=
  (Choice.lays.pair (Choice.lays.pair (Choice.lays.pair (Choice.lays.pair
    (StencilFace.lays.pair StencilFace.lays))))).map _ _

def BlendAttachment.fields (attachment : BlendAttachment) : List Field :=
  [.word attachment.blendEnable.raw, .word attachment.srcColorFactor.raw,
    .word attachment.dstColorFactor.raw, .word attachment.colorOp.raw,
    .word attachment.srcAlphaFactor.raw, .word attachment.dstAlphaFactor.raw,
    .word attachment.alphaOp.raw, .word attachment.writeMask]

theorem BlendAttachment.lays : codec.Lays fields :=
  (Choice.lays.pair (Choice.lays.pair (Choice.lays.pair (Choice.lays.pair (Choice.lays.pair
    (Choice.lays.pair (Choice.lays.pair Codec.lays_word))))))).map _ _

def OutputMerger.fields (merger : OutputMerger) : List Field :=
  [.word merger.logicOpEnable.raw, .word merger.logicOp.raw] ++
    merger.attachments.toList.flatMap BlendAttachment.fields

theorem OutputMerger.lays : codec.Lays fields :=
  (Choice.lays.pair (Choice.lays.pair (BlendAttachment.lays.vector targetCount))).map _ _

def PipelineState.fields (state : PipelineState) : List Field :=
  state.inputAssembly.fields ++ (state.vertexInput.fields ++ (state.rasterizer.fields ++
    (state.multisample.fields ++ (state.depthStencil.fields ++ state.outputMerger.fields))))

theorem PipelineState.lays : codec.Lays fields :=
  (InputAssembly.lays.pair (VertexInput.lays.pair (Rasterizer.lays.pair
    (Multisample.lays.pair (DepthStencil.lays.pair OutputMerger.lays))))).map _ _

def RenderPassFormat.fields (format : RenderPassFormat) : List Field :=
  [.word format.sampleCount, .word format.depth.raw] ++
    format.colors.toList.flatMap fun color => [.word color.raw]

theorem RenderPassFormat.lays : codec.Lays fields :=
  (Codec.lays_word.pair (Choice.lays.pair (Choice.lays.vector targetCount))).map _ _

namespace PipelineKey

def fields (key : PipelineKey) : List Field :=
  key.shaders.toList.flatMap ShaderKey.fields ++ (key.state.fields ++ key.format.fields)

/-- Five times two words and a digest, then the words of the state and of the format. -/
def kinds : List FieldKind :=
  (List.replicate 5 [.word, .word, .digest]).flatten ++ List.replicate (227 + 10) .word

theorem lays : codec.Lays fields :=
  ((ShaderKey.lays.vector 5).pair (PipelineState.lays.pair RenderPassFormat.lays)).map _ _

def blank : PipelineKey := ⟨Vector.replicate 5 .undefined, {}, {}⟩

theorem kinds_fields (key : PipelineKey) : key.fields.map Field.kind = kinds :=
  (lays.kinds key blank).trans (by decide +kernel)

theorem exists_of_kinds {listed : List Field} (right : listed.map Field.kind = kinds) :
    ∃ key, fields key = listed :=
  lays.exists_of_kinds lawful_codec blank (right.trans (kinds_fields blank).symm)

/-- Any single field can be changed to another of its kind. -/
theorem exists_set (key : PipelineKey) {index : Nat} {old new : Field}
    (found : key.fields[index]? = some old) (kind : new.kind = old.kind) :
    ∃ changed, fields changed = key.fields.set index new := by
  apply exists_of_kinds
  rw [List.map_set, ← kinds_fields key]
  apply List.ext_getElem?
  intro place
  rw [List.getElem?_set]
  split
  · rename_i here
    have inside := (List.getElem?_eq_some_iff.mp found).1
    rw [← here, if_pos (by simpa using inside), List.getElem?_map, found, kind]
    rfl
  · rfl

theorem ofBytes?_toBytes (key : PipelineKey) : ofBytes? key.toBytes = some key :=
  (if_pos (length_toBytes key)).trans (congrArg some (decode_toBytes key))

theorem toBytes_inj {first second : PipelineKey} : first.toBytes = second.toBytes ↔ first = second := by
  constructor
  · intro same
    rw [← decode_toBytes first, same, decode_toBytes]
  · intro same
    rw [same]

theorem fields_inj {first second : PipelineKey} : first.fields = second.fields ↔ first = second := by
  constructor
  · intro same
    apply toBytes_inj.mp
    rw [toBytes, toBytes, lays.encode, lays.encode, same]
  · intro same
    rw [same]

end PipelineKey

/-- Different byte strings that a function does not tell apart. -/
def Bytes.Collide {α : Type} (hash : Bytes → α) (first second : Bytes) : Prop :=
  first ≠ second ∧ hash first = hash second

/-- Functions of the stored form tell keys apart, unless the function itself confuses what it is given. -/
theorem PipelineKey.hash_eq_iff {α : Type} (hash : Bytes → α) (first second : PipelineKey) :
    hash first.toBytes = hash second.toBytes ↔
      first = second ∨ Bytes.Collide hash first.toBytes second.toBytes := by
  rw [Bytes.Collide, ne_eq, toBytes_inj]
  constructor
  · intro same
    by_cases equal : first = second
    · exact Or.inl equal
    · exact Or.inr ⟨equal, same⟩
  · rintro (equal | ⟨_, same⟩)
    · rw [equal]
    · exact same

namespace PipelineKey

/-- The stored form of a key is the bytes of its fields, and reading and writing it are inverse to each
other: every list of fields of the right kinds belongs to a key, every byte string of 1148 bytes is the
stored form of a key, and no other byte string can be read. So keys agree field by field exactly if
their bytes agree, digest and hash confuse no keys but by confusing their bytes, and any single field
can be changed, which changes the bytes. -/
theorem stored_form_exact :
    (∀ key : PipelineKey, key.toBytes = key.fields.flatMap Field.bytes ∧
      key.fields.map Field.kind = kinds) ∧
    (∀ listed : List Field, listed.map Field.kind = kinds → ∃ key, fields key = listed) ∧
    (ShaderKey.codec.size = 40 ∧ PipelineState.codec.size = 908 ∧ RenderPassFormat.codec.size = 40) ∧
    (∀ key, ofBytes? key.toBytes = some key) ∧
    (∀ bytes : Bytes, bytes.length = 1148 → ∃ key, ofBytes? bytes = some key ∧ key.toBytes = bytes) ∧
    (∀ bytes : Bytes, bytes.length ≠ 1148 → ofBytes? bytes = none) ∧
    (∀ first second : PipelineKey, (first.fields = second.fields ↔ first = second) ∧
      (first.toBytes = second.toBytes ↔ first = second) ∧
      (first.digest = second.digest ↔
        first = second ∨ Bytes.Collide Sha256.digest first.toBytes second.toBytes) ∧
      (first.hash64 = second.hash64 ↔
        first = second ∨ Bytes.Collide Xxh3.hash first.toBytes second.toBytes)) ∧
    (∀ (key : PipelineKey) (index : Nat) (old new : Field), key.fields[index]? = some old →
      new.kind = old.kind → new ≠ old →
      ∃ changed, fields changed = key.fields.set index new ∧ changed.toBytes ≠ key.toBytes) := by
  have whole : size = 1148 := rfl
  refine ⟨fun key => ⟨lays.encode key, kinds_fields key⟩, fun listed right => exists_of_kinds right,
    ⟨rfl, rfl, rfl⟩, ofBytes?_toBytes, fun bytes sized => ?_, fun bytes sized => ?_,
    fun first second => ⟨fields_inj, toBytes_inj, hash_eq_iff _ first second,
      hash_eq_iff _ first second⟩, ?_⟩
  · rw [← whole] at sized
    exact ⟨codec.decode bytes, if_pos sized, toBytes_decode bytes sized⟩
  · exact if_neg sized
  · intro key index old new found kind different
    obtain ⟨changed, listed⟩ := key.exists_set found kind
    refine ⟨changed, listed, fun same => different ?_⟩
    have inside := (List.getElem?_eq_some_iff.mp found).1
    rw [toBytes_inj.mp same] at listed
    apply Option.some.inj
    calc some new = (key.fields.set index new)[index]? := (List.getElem?_set_self inside).symm
      _ = key.fields[index]? := congrArg (·[index]?) listed.symm
      _ = some old := found

end PipelineKey

end PipelineCache
