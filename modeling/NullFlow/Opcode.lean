namespace NullFlow

inductive Flow where
  | next | breakpoint | call | branch | condBranch | ret | throw | modifier
  deriving DecidableEq

/-- The opcodes the analysis understands. A mnemonic that names none of them reads as `unknown`,
so that newer instruction sets degrade to instructions without effect. -/
inductive Opcode where
  | nop | breakpoint | ldarg0 | ldarg1 | ldarg2 | ldarg3 | ldloc0 | ldloc1 | ldloc2 | ldloc3
  | stloc0 | stloc1 | stloc2 | stloc3 | ldargS | ldargaS | stargS | ldlocS | ldlocaS | stlocS
  | ldnull | ldcI4M1 | ldcI40 | ldcI41 | ldcI42 | ldcI43 | ldcI44 | ldcI45 | ldcI46 | ldcI47
  | ldcI48 | ldcI4S | ldcI4 | ldcI8 | ldcR4 | ldcR8 | dup | pop | jmp | call | calli | ret | brS
  | brfalseS | brtrueS | beqS | bgeS | bgtS | bleS | bltS | bneUnS | bgeUnS | bgtUnS | bleUnS
  | bltUnS | br | brfalse | brtrue | beq | bge | bgt | ble | blt | bneUn | bgeUn | bgtUn | bleUn
  | bltUn | switch | ldindI1 | ldindU1 | ldindI2 | ldindU2 | ldindI4 | ldindU4 | ldindI8 | ldindI
  | ldindR4 | ldindR8 | ldindRef | stindRef | stindI1 | stindI2 | stindI4 | stindI8 | stindR4
  | stindR8 | add | sub | mul | div | divUn | rem | remUn | and | or | xor | shl | shr | shrUn
  | neg | not | convI1 | convI2 | convI4 | convI8 | convR4 | convR8 | convU4 | convU8 | callvirt
  | cpobj | ldobj | ldstr | newobj | castclass | isinst | convRUn | unbox | throw | ldfld
  | ldflda | stfld | ldsfld | ldsflda | stsfld | stobj | convOvfI1Un | convOvfI2Un | convOvfI4Un
  | convOvfI8Un | convOvfU1Un | convOvfU2Un | convOvfU4Un | convOvfU8Un | convOvfIUn | convOvfUUn
  | box | newarr | ldlen | ldelema | ldelemI1 | ldelemU1 | ldelemI2 | ldelemU2 | ldelemI4
  | ldelemU4 | ldelemI8 | ldelemI | ldelemR4 | ldelemR8 | ldelemRef | stelemI | stelemI1
  | stelemI2 | stelemI4 | stelemI8 | stelemR4 | stelemR8 | stelemRef | ldelem | stelem | unboxAny
  | convOvfI1 | convOvfU1 | convOvfI2 | convOvfU2 | convOvfI4 | convOvfU4 | convOvfI8 | convOvfU8
  | refanyval | ckfinite | mkrefany | ldtoken | convU2 | convU1 | convI | convOvfI | convOvfU
  | addOvf | addOvfUn | mulOvf | mulOvfUn | subOvf | subOvfUn | endfinally | leave | leaveS
  | stindI | convU | arglist | ceq | cgt | cgtUn | clt | cltUn | ldftn | ldvirtftn | ldarg
  | ldarga | starg | ldloc | ldloca | stloc | localloc | endfilter | unaligned | volatile | tail
  | initobj | constrained | cpblk | initblk | no | rethrow | sizeof | refanytype | readonly
  | unknown
  deriving DecidableEq

namespace Opcode

def mnemonic : Opcode → String
  | .nop => "nop"
  | .breakpoint => "break"
  | .ldarg0 => "ldarg.0"
  | .ldarg1 => "ldarg.1"
  | .ldarg2 => "ldarg.2"
  | .ldarg3 => "ldarg.3"
  | .ldloc0 => "ldloc.0"
  | .ldloc1 => "ldloc.1"
  | .ldloc2 => "ldloc.2"
  | .ldloc3 => "ldloc.3"
  | .stloc0 => "stloc.0"
  | .stloc1 => "stloc.1"
  | .stloc2 => "stloc.2"
  | .stloc3 => "stloc.3"
  | .ldargS => "ldarg.s"
  | .ldargaS => "ldarga.s"
  | .stargS => "starg.s"
  | .ldlocS => "ldloc.s"
  | .ldlocaS => "ldloca.s"
  | .stlocS => "stloc.s"
  | .ldnull => "ldnull"
  | .ldcI4M1 => "ldc.i4.m1"
  | .ldcI40 => "ldc.i4.0"
  | .ldcI41 => "ldc.i4.1"
  | .ldcI42 => "ldc.i4.2"
  | .ldcI43 => "ldc.i4.3"
  | .ldcI44 => "ldc.i4.4"
  | .ldcI45 => "ldc.i4.5"
  | .ldcI46 => "ldc.i4.6"
  | .ldcI47 => "ldc.i4.7"
  | .ldcI48 => "ldc.i4.8"
  | .ldcI4S => "ldc.i4.s"
  | .ldcI4 => "ldc.i4"
  | .ldcI8 => "ldc.i8"
  | .ldcR4 => "ldc.r4"
  | .ldcR8 => "ldc.r8"
  | .dup => "dup"
  | .pop => "pop"
  | .jmp => "jmp"
  | .call => "call"
  | .calli => "calli"
  | .ret => "ret"
  | .brS => "br.s"
  | .brfalseS => "brfalse.s"
  | .brtrueS => "brtrue.s"
  | .beqS => "beq.s"
  | .bgeS => "bge.s"
  | .bgtS => "bgt.s"
  | .bleS => "ble.s"
  | .bltS => "blt.s"
  | .bneUnS => "bne.un.s"
  | .bgeUnS => "bge.un.s"
  | .bgtUnS => "bgt.un.s"
  | .bleUnS => "ble.un.s"
  | .bltUnS => "blt.un.s"
  | .br => "br"
  | .brfalse => "brfalse"
  | .brtrue => "brtrue"
  | .beq => "beq"
  | .bge => "bge"
  | .bgt => "bgt"
  | .ble => "ble"
  | .blt => "blt"
  | .bneUn => "bne.un"
  | .bgeUn => "bge.un"
  | .bgtUn => "bgt.un"
  | .bleUn => "ble.un"
  | .bltUn => "blt.un"
  | .switch => "switch"
  | .ldindI1 => "ldind.i1"
  | .ldindU1 => "ldind.u1"
  | .ldindI2 => "ldind.i2"
  | .ldindU2 => "ldind.u2"
  | .ldindI4 => "ldind.i4"
  | .ldindU4 => "ldind.u4"
  | .ldindI8 => "ldind.i8"
  | .ldindI => "ldind.i"
  | .ldindR4 => "ldind.r4"
  | .ldindR8 => "ldind.r8"
  | .ldindRef => "ldind.ref"
  | .stindRef => "stind.ref"
  | .stindI1 => "stind.i1"
  | .stindI2 => "stind.i2"
  | .stindI4 => "stind.i4"
  | .stindI8 => "stind.i8"
  | .stindR4 => "stind.r4"
  | .stindR8 => "stind.r8"
  | .add => "add"
  | .sub => "sub"
  | .mul => "mul"
  | .div => "div"
  | .divUn => "div.un"
  | .rem => "rem"
  | .remUn => "rem.un"
  | .and => "and"
  | .or => "or"
  | .xor => "xor"
  | .shl => "shl"
  | .shr => "shr"
  | .shrUn => "shr.un"
  | .neg => "neg"
  | .not => "not"
  | .convI1 => "conv.i1"
  | .convI2 => "conv.i2"
  | .convI4 => "conv.i4"
  | .convI8 => "conv.i8"
  | .convR4 => "conv.r4"
  | .convR8 => "conv.r8"
  | .convU4 => "conv.u4"
  | .convU8 => "conv.u8"
  | .callvirt => "callvirt"
  | .cpobj => "cpobj"
  | .ldobj => "ldobj"
  | .ldstr => "ldstr"
  | .newobj => "newobj"
  | .castclass => "castclass"
  | .isinst => "isinst"
  | .convRUn => "conv.r.un"
  | .unbox => "unbox"
  | .throw => "throw"
  | .ldfld => "ldfld"
  | .ldflda => "ldflda"
  | .stfld => "stfld"
  | .ldsfld => "ldsfld"
  | .ldsflda => "ldsflda"
  | .stsfld => "stsfld"
  | .stobj => "stobj"
  | .convOvfI1Un => "conv.ovf.i1.un"
  | .convOvfI2Un => "conv.ovf.i2.un"
  | .convOvfI4Un => "conv.ovf.i4.un"
  | .convOvfI8Un => "conv.ovf.i8.un"
  | .convOvfU1Un => "conv.ovf.u1.un"
  | .convOvfU2Un => "conv.ovf.u2.un"
  | .convOvfU4Un => "conv.ovf.u4.un"
  | .convOvfU8Un => "conv.ovf.u8.un"
  | .convOvfIUn => "conv.ovf.i.un"
  | .convOvfUUn => "conv.ovf.u.un"
  | .box => "box"
  | .newarr => "newarr"
  | .ldlen => "ldlen"
  | .ldelema => "ldelema"
  | .ldelemI1 => "ldelem.i1"
  | .ldelemU1 => "ldelem.u1"
  | .ldelemI2 => "ldelem.i2"
  | .ldelemU2 => "ldelem.u2"
  | .ldelemI4 => "ldelem.i4"
  | .ldelemU4 => "ldelem.u4"
  | .ldelemI8 => "ldelem.i8"
  | .ldelemI => "ldelem.i"
  | .ldelemR4 => "ldelem.r4"
  | .ldelemR8 => "ldelem.r8"
  | .ldelemRef => "ldelem.ref"
  | .stelemI => "stelem.i"
  | .stelemI1 => "stelem.i1"
  | .stelemI2 => "stelem.i2"
  | .stelemI4 => "stelem.i4"
  | .stelemI8 => "stelem.i8"
  | .stelemR4 => "stelem.r4"
  | .stelemR8 => "stelem.r8"
  | .stelemRef => "stelem.ref"
  | .ldelem => "ldelem"
  | .stelem => "stelem"
  | .unboxAny => "unbox.any"
  | .convOvfI1 => "conv.ovf.i1"
  | .convOvfU1 => "conv.ovf.u1"
  | .convOvfI2 => "conv.ovf.i2"
  | .convOvfU2 => "conv.ovf.u2"
  | .convOvfI4 => "conv.ovf.i4"
  | .convOvfU4 => "conv.ovf.u4"
  | .convOvfI8 => "conv.ovf.i8"
  | .convOvfU8 => "conv.ovf.u8"
  | .refanyval => "refanyval"
  | .ckfinite => "ckfinite"
  | .mkrefany => "mkrefany"
  | .ldtoken => "ldtoken"
  | .convU2 => "conv.u2"
  | .convU1 => "conv.u1"
  | .convI => "conv.i"
  | .convOvfI => "conv.ovf.i"
  | .convOvfU => "conv.ovf.u"
  | .addOvf => "add.ovf"
  | .addOvfUn => "add.ovf.un"
  | .mulOvf => "mul.ovf"
  | .mulOvfUn => "mul.ovf.un"
  | .subOvf => "sub.ovf"
  | .subOvfUn => "sub.ovf.un"
  | .endfinally => "endfinally"
  | .leave => "leave"
  | .leaveS => "leave.s"
  | .stindI => "stind.i"
  | .convU => "conv.u"
  | .arglist => "arglist"
  | .ceq => "ceq"
  | .cgt => "cgt"
  | .cgtUn => "cgt.un"
  | .clt => "clt"
  | .cltUn => "clt.un"
  | .ldftn => "ldftn"
  | .ldvirtftn => "ldvirtftn"
  | .ldarg => "ldarg"
  | .ldarga => "ldarga"
  | .starg => "starg"
  | .ldloc => "ldloc"
  | .ldloca => "ldloca"
  | .stloc => "stloc"
  | .localloc => "localloc"
  | .endfilter => "endfilter"
  | .unaligned => "unaligned."
  | .volatile => "volatile."
  | .tail => "tail."
  | .initobj => "initobj"
  | .constrained => "constrained."
  | .cpblk => "cpblk"
  | .initblk => "initblk"
  | .no => "no."
  | .rethrow => "rethrow"
  | .sizeof => "sizeof"
  | .refanytype => "refanytype"
  | .readonly => "readonly."
  | .unknown => "<unknown>"

def all : List Opcode :=
  [.nop, .breakpoint, .ldarg0, .ldarg1, .ldarg2, .ldarg3, .ldloc0, .ldloc1, .ldloc2, .ldloc3,
   .stloc0, .stloc1, .stloc2, .stloc3, .ldargS, .ldargaS, .stargS, .ldlocS, .ldlocaS, .stlocS,
   .ldnull, .ldcI4M1, .ldcI40, .ldcI41, .ldcI42, .ldcI43, .ldcI44, .ldcI45, .ldcI46, .ldcI47,
   .ldcI48, .ldcI4S, .ldcI4, .ldcI8, .ldcR4, .ldcR8, .dup, .pop, .jmp, .call, .calli, .ret, .brS,
   .brfalseS, .brtrueS, .beqS, .bgeS, .bgtS, .bleS, .bltS, .bneUnS, .bgeUnS, .bgtUnS, .bleUnS,
   .bltUnS, .br, .brfalse, .brtrue, .beq, .bge, .bgt, .ble, .blt, .bneUn, .bgeUn, .bgtUn, .bleUn,
   .bltUn, .switch, .ldindI1, .ldindU1, .ldindI2, .ldindU2, .ldindI4, .ldindU4, .ldindI8,
   .ldindI, .ldindR4, .ldindR8, .ldindRef, .stindRef, .stindI1, .stindI2, .stindI4, .stindI8,
   .stindR4, .stindR8, .add, .sub, .mul, .div, .divUn, .rem, .remUn, .and, .or, .xor, .shl, .shr,
   .shrUn, .neg, .not, .convI1, .convI2, .convI4, .convI8, .convR4, .convR8, .convU4, .convU8,
   .callvirt, .cpobj, .ldobj, .ldstr, .newobj, .castclass, .isinst, .convRUn, .unbox, .throw,
   .ldfld, .ldflda, .stfld, .ldsfld, .ldsflda, .stsfld, .stobj, .convOvfI1Un, .convOvfI2Un,
   .convOvfI4Un, .convOvfI8Un, .convOvfU1Un, .convOvfU2Un, .convOvfU4Un, .convOvfU8Un,
   .convOvfIUn, .convOvfUUn, .box, .newarr, .ldlen, .ldelema, .ldelemI1, .ldelemU1, .ldelemI2,
   .ldelemU2, .ldelemI4, .ldelemU4, .ldelemI8, .ldelemI, .ldelemR4, .ldelemR8, .ldelemRef,
   .stelemI, .stelemI1, .stelemI2, .stelemI4, .stelemI8, .stelemR4, .stelemR8, .stelemRef,
   .ldelem, .stelem, .unboxAny, .convOvfI1, .convOvfU1, .convOvfI2, .convOvfU2, .convOvfI4,
   .convOvfU4, .convOvfI8, .convOvfU8, .refanyval, .ckfinite, .mkrefany, .ldtoken, .convU2,
   .convU1, .convI, .convOvfI, .convOvfU, .addOvf, .addOvfUn, .mulOvf, .mulOvfUn, .subOvf,
   .subOvfUn, .endfinally, .leave, .leaveS, .stindI, .convU, .arglist, .ceq, .cgt, .cgtUn, .clt,
   .cltUn, .ldftn, .ldvirtftn, .ldarg, .ldarga, .starg, .ldloc, .ldloca, .stloc, .localloc,
   .endfilter, .unaligned, .volatile, .tail, .initobj, .constrained, .cpblk, .initblk, .no,
   .rethrow, .sizeof, .refanytype, .readonly]

/-- Other spellings that metadata readers use for the same opcode. -/
def aliases : List (String × Opcode) :=
  [("ldelem.any", .ldelem), ("stelem.any", .stelem), ("ldelem.u8", .ldelemI8),
   ("ldind.u8", .ldindI8)]

def ofMnemonic (name : String) : Opcode :=
  match all.find? (·.mnemonic == name) with
  | some op => op
  | none => (aliases.lookup name).getD .unknown

def ofName (name : String) : Opcode :=
  ofMnemonic (name.map Char.toLower)

def flow : Opcode → Flow
  | .breakpoint => .breakpoint
  | .jmp | .call | .calli | .callvirt | .newobj => .call
  | .brS | .br | .leave | .leaveS => .branch
  | .brfalseS | .brtrueS | .beqS | .bgeS | .bgtS | .bleS | .bltS | .bneUnS | .bgeUnS | .bgtUnS
  | .bleUnS | .bltUnS | .brfalse | .brtrue | .beq | .bge | .bgt | .ble | .blt | .bneUn | .bgeUn
  | .bgtUn | .bleUn | .bltUn | .switch => .condBranch
  | .ret | .endfinally | .endfilter => .ret
  | .throw | .rethrow => .throw
  | .unaligned | .volatile | .tail | .constrained | .no | .readonly => .modifier
  | _ => .next

def endsFlow (op : Opcode) : Bool :=
  match op.flow with
  | .branch | .ret | .throw => true
  | _ => false

def splitsBlock (op : Opcode) : Bool :=
  op.endsFlow || op.flow == .condBranch

end Opcode

end NullFlow
