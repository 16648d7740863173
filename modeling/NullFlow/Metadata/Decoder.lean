import NullFlow.Metadata
import NullFlow.Json.Decoder

namespace NullFlow

open Json (Decoder Field)

def TypeRef.decoder : Decoder TypeRef :=
  Decoder.record "TypeRef"
    [.must "full_name" .text fun v t => { t with fullName := v },
     .may "is_value_type" .bool fun v t => { t with isValueType := v }]
    ⟨"", false⟩

def TypeRef.blank : TypeRef := ⟨"", false⟩

def ParameterRef.decoder : Decoder TypeRef :=
  Decoder.record "ParameterRef" [.must "parameter_type" TypeRef.decoder fun v _ => v] .blank

def MethodRef.decoder : Decoder MethodRef :=
  Decoder.record "MethodRef"
    [.must "declaring_type" .text fun v m => { m with declaringType := v },
     .may "name" .text fun v m => { m with name := v },
     .may "has_this" .bool fun v m => { m with hasThis := v },
     .may "parameters" (.list ParameterRef.decoder) fun v m => { m with parameters := v },
     .must "return_type" TypeRef.decoder fun v m => { m with returnType := v },
     .may "unresolved" .bool fun v m => { m with unresolved := v }]
    ⟨"", "", false, [], .blank, false⟩

def FieldRef.decoder : Decoder FieldRef :=
  Decoder.record "FieldRef"
    [.must "declaring_type" .text fun v f => { f with declaringType := v },
     .must "name" .text fun v f => { f with name := v },
     .must "field_type" TypeRef.decoder fun v f => { f with fieldType := v },
     .may "unresolved" .bool fun v f => { f with unresolved := v }]
    ⟨"", "", .blank, false⟩

def Operand.decoder : Decoder Operand :=
  Decoder.variant
    [("none", .unit .none),
     ("int", .content (Decoder.int64.map .int)),
     ("float", .content (Decoder.binary64.map .float)),
     ("string", .content (Decoder.text.map .string)),
     ("local", .content (Decoder.nat64.map .localVar)),
     ("arg", .content (Decoder.nat64.map .arg)),
     ("target", .content (Decoder.nat32.map .target)),
     ("targets", .content ((Decoder.list .nat32).map .targets)),
     ("method", .content (MethodRef.decoder.map .method)),
     ("field", .content (FieldRef.decoder.map .field)),
     ("type", .content (TypeRef.decoder.map .type)),
     ("signature", .content (MethodRef.decoder.map .signature))]

def Instruction.decoder : Decoder Instruction :=
  Decoder.record "Instruction"
    [.must "offset" .nat32 fun v i => { i with offset := v },
     .must "opcode" (Decoder.text.map Opcode.ofName) fun v i => { i with opcode := v },
     .may "operand" Operand.decoder fun v i => { i with operand := v }]
    ⟨0, .unknown, .none⟩

def HandlerKind.decoder : Decoder HandlerKind :=
  Decoder.variant
    [("catch", .unit .catch), ("filter", .unit .filter), ("finally", .unit .finally),
     ("fault", .unit .fault)]

def ExceptionHandler.decoder : Decoder ExceptionHandler :=
  Decoder.record "ExceptionHandler"
    [.must "kind" HandlerKind.decoder fun v h => { h with kind := v },
     .must "try_start" .nat32 fun v h => { h with tryStart := v },
     .must "try_end" .nat32 fun v h => { h with tryEnd := v },
     .must "handler_start" .nat32 fun v h => { h with handlerStart := v },
     .must "handler_end" .nat32 fun v h => { h with handlerEnd := v },
     .may "filter_start" (.option .nat32) fun v h => { h with filterStart := v }]
    ⟨.catch, 0, 0, 0, 0, none⟩

def LocalDef.decoder : Decoder TypeRef :=
  Decoder.record "LocalDef" [.must "local_type" TypeRef.decoder fun v _ => v] .blank

def MethodBody.decoder : Decoder MethodBody :=
  Decoder.record "MethodBody"
    [.must "max_stack" .nat64 fun v b => { b with maxStack := v },
     .may "locals" (.list LocalDef.decoder) fun v b => { b with locals := v },
     .may "instructions" (.list Instruction.decoder) fun v b => { b with instructions := v },
     .may "exception_handlers" (.list ExceptionHandler.decoder) fun v b => { b with handlers := v }]
    ⟨0, [], [], []⟩

def CustomAttribute.decoder : Decoder (Option String) :=
  Decoder.record "CustomAttribute" [.may "constructor" (.option .text) fun v _ => v] none

def Attributes.decoder : Decoder Attributes :=
  .list CustomAttribute.decoder

def ParameterDef.decoder : Decoder ParameterDef :=
  Decoder.record "ParameterDef"
    [.may "name" .text fun v p => { p with name := v },
     .must "parameter_type" TypeRef.decoder fun v p => { p with parameterType := v },
     .may "custom_attributes" Attributes.decoder fun v p => { p with attributes := v }]
    ⟨"", .blank, []⟩

def FieldDef.decoder : Decoder FieldDef :=
  Decoder.record "FieldDef"
    [.must "name" .text fun v f => { f with name := v },
     .must "field_type" TypeRef.decoder fun v f => { f with fieldType := v },
     .may "custom_attributes" Attributes.decoder fun v f => { f with attributes := v }]
    ⟨"", .blank, []⟩

def MethodDef.decoder : Decoder MethodDef :=
  Decoder.record "MethodDef"
    [.must "name" .text fun v m => { m with name := v },
     .must "return_type" TypeRef.decoder fun v m => { m with returnType := v },
     .may "has_this" .bool fun v m => { m with hasThis := v },
     .may "parameters" (.list ParameterDef.decoder) fun v m => { m with parameters := v },
     .may "custom_attributes" Attributes.decoder fun v m => { m with attributes := v },
     .may "body" (.option MethodBody.decoder) fun v m => { m with body := v }]
    ⟨"", .blank, false, [], [], none⟩

/-- A type with up to so many levels of types nested in it. Each level opens a bracket, so the
limit on open brackets is reached before the limit on levels. -/
def TypeDef.decoder : Nat → Decoder TypeDef
  | 0 => fun _ _ => Json.fail .recursionLimit
  | levels + 1 =>
    Decoder.record "TypeDef"
      [.must "full_name" .text fun v t => .mk v t.fields t.methods t.nested,
       .may "fields" (.list FieldDef.decoder) fun v t => .mk t.fullName v t.methods t.nested,
       .may "methods" (.list MethodDef.decoder) fun v t => .mk t.fullName t.fields v t.nested,
       .may "nested_types" (.list (TypeDef.decoder levels)) fun v t =>
         .mk t.fullName t.fields t.methods v]
      (.mk "" [] [] [])

def Module.decoder : Decoder Module :=
  Decoder.record "Module"
    [.must "name" .text fun v m => { m with name := v },
     .may "types" (.list (TypeDef.decoder Json.maxDepth)) fun v m => { m with types := v }]
    ⟨"", []⟩

def Assembly.decoder : Decoder Assembly :=
  Decoder.record "Assembly"
    [.must "name" .text fun v a => { a with name := v },
     .may "modules" (.list Module.decoder) fun v a => { a with modules := v }]
    ⟨"", []⟩

def Assembly.decode (dump : Text.Bytes) : Except Json.Failure Assembly :=
  Assembly.decoder.run dump

end NullFlow
