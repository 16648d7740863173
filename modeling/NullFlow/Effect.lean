import NullFlow.Opcode
import NullFlow.Nullity

namespace NullFlow

inductive SlotChoice where
  | fixed (index : Nat)
  | operand
  deriving DecidableEq

/-- The kinds of effect. Taking the address of a slot forgets its value, since it can be written
through the address. -/
inductive Effect where
  | none
  | push (v : Nullity)
  | pop (count : Nat)
  | replace (count : Nat) (v : Nullity)
  | dup
  | clear
  | loadArg (slot : SlotChoice)
  | storeArg
  | addressArg
  | loadLocal (slot : SlotChoice)
  | storeLocal (slot : SlotChoice)
  | addressLocal
  | call (indirect : Bool)
  | ret
  | construct
  | loadField
  | addressField
  | storeField
  | loadStatic
  | addressStatic
  | storeStatic
  deriving DecidableEq

def Opcode.effect : Opcode → Effect
  | .nop | .breakpoint | .jmp | .brS | .br | .castclass | .isinst | .endfinally | .unaligned
  | .volatile | .tail | .constrained | .no | .rethrow | .readonly | .unknown => .none
  | .ldarg0 => .loadArg (.fixed 0)
  | .ldarg1 => .loadArg (.fixed 1)
  | .ldarg2 => .loadArg (.fixed 2)
  | .ldarg3 => .loadArg (.fixed 3)
  | .ldargS | .ldarg => .loadArg .operand
  | .ldargaS | .ldarga => .addressArg
  | .stargS | .starg => .storeArg
  | .ldloc0 => .loadLocal (.fixed 0)
  | .ldloc1 => .loadLocal (.fixed 1)
  | .ldloc2 => .loadLocal (.fixed 2)
  | .ldloc3 => .loadLocal (.fixed 3)
  | .ldlocS | .ldloc => .loadLocal .operand
  | .ldlocaS | .ldloca => .addressLocal
  | .stloc0 => .storeLocal (.fixed 0)
  | .stloc1 => .storeLocal (.fixed 1)
  | .stloc2 => .storeLocal (.fixed 2)
  | .stloc3 => .storeLocal (.fixed 3)
  | .stlocS | .stloc => .storeLocal .operand
  | .ldnull => .push .null
  | .ldcI4M1 | .ldcI40 | .ldcI41 | .ldcI42 | .ldcI43 | .ldcI44 | .ldcI45 | .ldcI46 | .ldcI47
  | .ldcI48 | .ldcI4S | .ldcI4 | .ldcI8 | .ldcR4 | .ldcR8 | .ldstr | .ldtoken | .arglist | .ldftn
  | .sizeof => .push .nonNull
  | .dup => .dup
  | .pop | .brfalseS | .brtrueS | .brfalse | .brtrue | .switch | .throw | .endfilter | .initobj
    => .pop 1
  | .call | .callvirt => .call false
  | .calli => .call true
  | .ret => .ret
  | .newobj => .construct
  | .ldfld => .loadField
  | .ldflda => .addressField
  | .stfld => .storeField
  | .ldsfld => .loadStatic
  | .ldsflda => .addressStatic
  | .stsfld => .storeStatic
  | .beqS | .bgeS | .bgtS | .bleS | .bltS | .bneUnS | .bgeUnS | .bgtUnS | .bleUnS | .bltUnS
  | .beq | .bge | .bgt | .ble | .blt | .bneUn | .bgeUn | .bgtUn | .bleUn | .bltUn | .stindRef
  | .stindI1 | .stindI2 | .stindI4 | .stindI8 | .stindR4 | .stindR8 | .cpobj | .stobj | .stindI
    => .pop 2
  | .leave | .leaveS => .clear
  | .ldindI1 | .ldindU1 | .ldindI2 | .ldindU2 | .ldindI4 | .ldindU4 | .ldindI8 | .ldindI
  | .ldindR4 | .ldindR8 | .ldindRef => .replace 1 .unknown
  | .stelemI | .stelemI1 | .stelemI2 | .stelemI4 | .stelemI8 | .stelemR4 | .stelemR8 | .stelemRef
  | .stelem | .cpblk | .initblk => .pop 3
  | .add | .sub | .mul | .div | .divUn | .rem | .remUn | .and | .or | .xor | .shl | .shr | .shrUn
  | .ldelema | .ldelemI1 | .ldelemU1 | .ldelemI2 | .ldelemU2 | .ldelemI4 | .ldelemU4 | .ldelemI8
  | .ldelemI | .ldelemR4 | .ldelemR8 | .addOvf | .addOvfUn | .mulOvf | .mulOvfUn | .subOvf
  | .subOvfUn | .ceq | .cgt | .cgtUn | .clt | .cltUn => .replace 2 .nonNull
  | .neg | .not | .convI1 | .convI2 | .convI4 | .convI8 | .convR4 | .convR8 | .convU4 | .convU8
  | .ldobj | .convRUn | .unbox | .convOvfI1Un | .convOvfI2Un | .convOvfI4Un | .convOvfI8Un
  | .convOvfU1Un | .convOvfU2Un | .convOvfU4Un | .convOvfU8Un | .convOvfIUn | .convOvfUUn | .box
  | .newarr | .ldlen | .unboxAny | .convOvfI1 | .convOvfU1 | .convOvfI2 | .convOvfU2 | .convOvfI4
  | .convOvfU4 | .convOvfI8 | .convOvfU8 | .refanyval | .ckfinite | .mkrefany | .convU2 | .convU1
  | .convI | .convOvfI | .convOvfU | .convU | .ldvirtftn | .localloc | .refanytype
    => .replace 1 .nonNull
  | .ldelemRef | .ldelem => .replace 2 .unknown

end NullFlow
