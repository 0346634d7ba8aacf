/- The state machine of `ip_parser.c` and `ae_ip_parser_execute`, which runs it. -/

import AsyncEngine.Lib.Braun

set_option autoImplicit false
set_option relaxedAutoImplicit false

namespace AsyncEngine.IpParser.Machine

open AsyncEngine.Lib

inductive IpType
  | noIp | ipv4 | ipv6 | ipv6Reference
  deriving BEq, ReflBEq, LawfulBEq, DecidableEq

/-- The two kinds of labels a `goto` of the generated code names. -/
inductive Label
  | st (n : Nat)
  | tr (n : Nat)

/-- One test of a `case` on `*p` with the label it goes to. `letter` is the pair of ranges
65..70 and 97..102 and `hexdigit` these with 48..57, which the generated code always tests
together. Every bound is below 128, so the signedness of `char` makes no difference. -/
inductive Arm
  | byte (c : Nat) (goto : Label)
  | range (lo hi : Nat) (goto : Label)
  | hexdigit (goto : Label)
  | letter (goto : Label)

/-- The `case` blocks in the order of their numbers; entry 0 is the error state `st0`, and a
byte that no arm of a block takes goes to `st0`. -/
def cases : List (List Arm) := [
  /- 0 -/ [],
  /- 1 -/ [.byte 48 (.st 2), .byte 49 (.st 76), .byte 50 (.st 79), .byte 58 (.st 83),
    .byte 91 (.st 86), .range 51 57 (.st 82), .letter (.st 85)],
  /- 2 -/ [.byte 46 (.st 3), .byte 58 (.st 19), .hexdigit (.st 16)],
  /- 3 -/ [.byte 48 (.st 4), .byte 49 (.st 12), .byte 50 (.st 14), .range 51 57 (.st 13)],
  /- 4 -/ [.byte 46 (.st 5)],
  /- 5 -/ [.byte 48 (.st 6), .byte 49 (.st 8), .byte 50 (.st 10), .range 51 57 (.st 9)],
  /- 6 -/ [.byte 46 (.st 7)],
  /- 7 -/ [.byte 48 (.tr 21), .byte 49 (.tr 22), .byte 50 (.tr 23), .range 51 57 (.tr 24)],
  /- 8 -/ [.byte 46 (.st 7), .range 48 57 (.st 9)],
  /- 9 -/ [.byte 46 (.st 7), .range 48 57 (.st 6)],
  /- 10 -/ [.byte 46 (.st 7), .byte 53 (.st 11), .range 48 52 (.st 9), .range 54 57 (.st 6)],
  /- 11 -/ [.byte 46 (.st 7), .range 48 53 (.st 6)],
  /- 12 -/ [.byte 46 (.st 5), .range 48 57 (.st 13)],
  /- 13 -/ [.byte 46 (.st 5), .range 48 57 (.st 4)],
  /- 14 -/ [.byte 46 (.st 5), .byte 53 (.st 15), .range 48 52 (.st 13), .range 54 57 (.st 4)],
  /- 15 -/ [.byte 46 (.st 5), .range 48 53 (.st 4)],
  /- 16 -/ [.byte 58 (.st 19), .hexdigit (.st 17)],
  /- 17 -/ [.byte 58 (.st 19), .hexdigit (.st 18)],
  /- 18 -/ [.byte 58 (.st 19)],
  /- 19 -/ [.byte 58 (.tr 30), .hexdigit (.st 20)],
  /- 20 -/ [.byte 58 (.st 24), .hexdigit (.st 21)],
  /- 21 -/ [.byte 58 (.st 24), .hexdigit (.st 22)],
  /- 22 -/ [.byte 58 (.st 24), .hexdigit (.st 23)],
  /- 23 -/ [.byte 58 (.st 24)],
  /- 24 -/ [.byte 58 (.tr 36), .hexdigit (.st 25)],
  /- 25 -/ [.byte 58 (.st 29), .hexdigit (.st 26)],
  /- 26 -/ [.byte 58 (.st 29), .hexdigit (.st 27)],
  /- 27 -/ [.byte 58 (.st 29), .hexdigit (.st 28)],
  /- 28 -/ [.byte 58 (.st 29)],
  /- 29 -/ [.byte 58 (.tr 42), .hexdigit (.st 30)],
  /- 30 -/ [.byte 58 (.st 34), .hexdigit (.st 31)],
  /- 31 -/ [.byte 58 (.st 34), .hexdigit (.st 32)],
  /- 32 -/ [.byte 58 (.st 34), .hexdigit (.st 33)],
  /- 33 -/ [.byte 58 (.st 34)],
  /- 34 -/ [.byte 58 (.tr 48), .hexdigit (.st 35)],
  /- 35 -/ [.byte 58 (.st 39), .hexdigit (.st 36)],
  /- 36 -/ [.byte 58 (.st 39), .hexdigit (.st 37)],
  /- 37 -/ [.byte 58 (.st 39), .hexdigit (.st 38)],
  /- 38 -/ [.byte 58 (.st 39)],
  /- 39 -/ [.byte 58 (.tr 54), .hexdigit (.st 40)],
  /- 40 -/ [.byte 58 (.st 44), .hexdigit (.st 41)],
  /- 41 -/ [.byte 58 (.st 44), .hexdigit (.st 42)],
  /- 42 -/ [.byte 58 (.st 44), .hexdigit (.st 43)],
  /- 43 -/ [.byte 58 (.st 44)],
  /- 44 -/ [.byte 48 (.st 45), .byte 49 (.st 63), .byte 50 (.st 66), .byte 58 (.tr 63),
    .range 51 57 (.st 69), .letter (.st 70)],
  /- 45 -/ [.byte 46 (.st 46), .byte 58 (.st 62), .hexdigit (.st 59)],
  /- 46 -/ [.byte 48 (.st 47), .byte 49 (.st 55), .byte 50 (.st 57), .range 51 57 (.st 56)],
  /- 47 -/ [.byte 46 (.st 48)],
  /- 48 -/ [.byte 48 (.st 49), .byte 49 (.st 51), .byte 50 (.st 53), .range 51 57 (.st 52)],
  /- 49 -/ [.byte 46 (.st 50)],
  /- 50 -/ [.byte 48 (.tr 78), .byte 49 (.tr 79), .byte 50 (.tr 80), .range 51 57 (.tr 81)],
  /- 51 -/ [.byte 46 (.st 50), .range 48 57 (.st 52)],
  /- 52 -/ [.byte 46 (.st 50), .range 48 57 (.st 49)],
  /- 53 -/ [.byte 46 (.st 50), .byte 53 (.st 54), .range 48 52 (.st 52), .range 54 57 (.st 49)],
  /- 54 -/ [.byte 46 (.st 50), .range 48 53 (.st 49)],
  /- 55 -/ [.byte 46 (.st 48), .range 48 57 (.st 56)],
  /- 56 -/ [.byte 46 (.st 48), .range 48 57 (.st 47)],
  /- 57 -/ [.byte 46 (.st 48), .byte 53 (.st 58), .range 48 52 (.st 56), .range 54 57 (.st 47)],
  /- 58 -/ [.byte 46 (.st 48), .range 48 53 (.st 47)],
  /- 59 -/ [.byte 58 (.st 62), .hexdigit (.st 60)],
  /- 60 -/ [.byte 58 (.st 62), .hexdigit (.st 61)],
  /- 61 -/ [.byte 58 (.st 62)],
  /- 62 -/ [.byte 58 (.tr 78), .hexdigit (.tr 86)],
  /- 63 -/ [.byte 46 (.st 46), .byte 58 (.st 62), .range 48 57 (.st 64), .letter (.st 59)],
  /- 64 -/ [.byte 46 (.st 46), .byte 58 (.st 62), .range 48 57 (.st 65), .letter (.st 60)],
  /- 65 -/ [.byte 46 (.st 46), .byte 58 (.st 62), .hexdigit (.st 61)],
  /- 66 -/ [.byte 46 (.st 46), .byte 53 (.st 67), .byte 58 (.st 62), .range 48 52 (.st 64),
    .range 54 57 (.st 68), .letter (.st 59)],
  /- 67 -/ [.byte 46 (.st 46), .byte 58 (.st 62), .range 48 53 (.st 65), .range 54 57 (.st 60),
    .letter (.st 60)],
  /- 68 -/ [.byte 46 (.st 46), .byte 58 (.st 62), .hexdigit (.st 60)],
  /- 69 -/ [.byte 46 (.st 46), .byte 58 (.st 62), .range 48 57 (.st 68), .letter (.st 59)],
  /- 70 -/ [.byte 58 (.st 62), .hexdigit (.st 59)],
  /- 71 -/ [.hexdigit (.tr 86)],
  /- 72 -/ [.byte 48 (.tr 91), .byte 49 (.tr 92), .byte 50 (.tr 93), .range 51 57 (.tr 94),
    .letter (.tr 95)],
  /- 73 -/ [.byte 48 (.tr 96), .byte 49 (.tr 97), .byte 50 (.tr 98), .range 51 57 (.tr 99),
    .letter (.tr 100)],
  /- 74 -/ [.byte 48 (.tr 101), .byte 49 (.tr 102), .byte 50 (.tr 103), .range 51 57 (.tr 104),
    .letter (.tr 105)],
  /- 75 -/ [.byte 48 (.tr 106), .byte 49 (.tr 107), .byte 50 (.tr 108), .range 51 57 (.tr 109),
    .letter (.tr 110)],
  /- 76 -/ [.byte 46 (.st 3), .byte 58 (.st 19), .range 48 57 (.st 77), .letter (.st 16)],
  /- 77 -/ [.byte 46 (.st 3), .byte 58 (.st 19), .range 48 57 (.st 78), .letter (.st 17)],
  /- 78 -/ [.byte 46 (.st 3), .byte 58 (.st 19), .hexdigit (.st 18)],
  /- 79 -/ [.byte 46 (.st 3), .byte 53 (.st 80), .byte 58 (.st 19), .range 48 52 (.st 77),
    .range 54 57 (.st 81), .letter (.st 16)],
  /- 80 -/ [.byte 46 (.st 3), .byte 58 (.st 19), .range 48 53 (.st 78), .range 54 57 (.st 17),
    .letter (.st 17)],
  /- 81 -/ [.byte 46 (.st 3), .byte 58 (.st 19), .hexdigit (.st 17)],
  /- 82 -/ [.byte 46 (.st 3), .byte 58 (.st 19), .range 48 57 (.st 81), .letter (.st 16)],
  /- 83 -/ [.byte 58 (.tr 115)],
  /- 84 -/ [.byte 48 (.tr 116), .byte 49 (.tr 117), .byte 50 (.tr 118), .range 51 57 (.tr 119),
    .letter (.tr 120)],
  /- 85 -/ [.byte 58 (.st 19), .hexdigit (.st 16)],
  /- 86 -/ [.byte 58 (.st 222), .hexdigit (.st 87)],
  /- 87 -/ [.byte 58 (.st 91), .hexdigit (.st 88)],
  /- 88 -/ [.byte 58 (.st 91), .hexdigit (.st 89)],
  /- 89 -/ [.byte 58 (.st 91), .hexdigit (.st 90)],
  /- 90 -/ [.byte 58 (.st 91)],
  /- 91 -/ [.byte 58 (.st 208), .hexdigit (.st 92)],
  /- 92 -/ [.byte 58 (.st 96), .hexdigit (.st 93)],
  /- 93 -/ [.byte 58 (.st 96), .hexdigit (.st 94)],
  /- 94 -/ [.byte 58 (.st 96), .hexdigit (.st 95)],
  /- 95 -/ [.byte 58 (.st 96)],
  /- 96 -/ [.byte 58 (.st 194), .hexdigit (.st 97)],
  /- 97 -/ [.byte 58 (.st 101), .hexdigit (.st 98)],
  /- 98 -/ [.byte 58 (.st 101), .hexdigit (.st 99)],
  /- 99 -/ [.byte 58 (.st 101), .hexdigit (.st 100)],
  /- 100 -/ [.byte 58 (.st 101)],
  /- 101 -/ [.byte 58 (.st 180), .hexdigit (.st 102)],
  /- 102 -/ [.byte 58 (.st 106), .hexdigit (.st 103)],
  /- 103 -/ [.byte 58 (.st 106), .hexdigit (.st 104)],
  /- 104 -/ [.byte 58 (.st 106), .hexdigit (.st 105)],
  /- 105 -/ [.byte 58 (.st 106)],
  /- 106 -/ [.byte 58 (.st 166), .hexdigit (.st 107)],
  /- 107 -/ [.byte 58 (.st 111), .hexdigit (.st 108)],
  /- 108 -/ [.byte 58 (.st 111), .hexdigit (.st 109)],
  /- 109 -/ [.byte 58 (.st 111), .hexdigit (.st 110)],
  /- 110 -/ [.byte 58 (.st 111)],
  /- 111 -/ [.byte 58 (.st 152), .hexdigit (.st 112)],
  /- 112 -/ [.byte 58 (.st 116), .hexdigit (.st 113)],
  /- 113 -/ [.byte 58 (.st 116), .hexdigit (.st 114)],
  /- 114 -/ [.byte 58 (.st 116), .hexdigit (.st 115)],
  /- 115 -/ [.byte 58 (.st 116)],
  /- 116 -/ [.byte 48 (.st 117), .byte 49 (.st 143), .byte 50 (.st 146), .byte 58 (.st 150),
    .range 51 57 (.st 149), .letter (.st 151)],
  /- 117 -/ [.byte 46 (.st 118), .byte 58 (.st 139), .hexdigit (.st 136)],
  /- 118 -/ [.byte 48 (.st 119), .byte 49 (.st 132), .byte 50 (.st 134), .range 51 57 (.st 133)],
  /- 119 -/ [.byte 46 (.st 120)],
  /- 120 -/ [.byte 48 (.st 121), .byte 49 (.st 128), .byte 50 (.st 130), .range 51 57 (.st 129)],
  /- 121 -/ [.byte 46 (.st 122)],
  /- 122 -/ [.byte 48 (.st 123), .byte 49 (.st 124), .byte 50 (.st 126), .range 51 57 (.st 125)],
  /- 123 -/ [.byte 93 (.tr 180)],
  /- 124 -/ [.byte 93 (.tr 180), .range 48 57 (.st 125)],
  /- 125 -/ [.byte 93 (.tr 180), .range 48 57 (.st 123)],
  /- 126 -/ [.byte 53 (.st 127), .byte 93 (.tr 180), .range 48 52 (.st 125),
    .range 54 57 (.st 123)],
  /- 127 -/ [.byte 93 (.tr 180), .range 48 53 (.st 123)],
  /- 128 -/ [.byte 46 (.st 122), .range 48 57 (.st 129)],
  /- 129 -/ [.byte 46 (.st 122), .range 48 57 (.st 121)],
  /- 130 -/ [.byte 46 (.st 122), .byte 53 (.st 131), .range 48 52 (.st 129),
    .range 54 57 (.st 121)],
  /- 131 -/ [.byte 46 (.st 122), .range 48 53 (.st 121)],
  /- 132 -/ [.byte 46 (.st 120), .range 48 57 (.st 133)],
  /- 133 -/ [.byte 46 (.st 120), .range 48 57 (.st 119)],
  /- 134 -/ [.byte 46 (.st 120), .byte 53 (.st 135), .range 48 52 (.st 133),
    .range 54 57 (.st 119)],
  /- 135 -/ [.byte 46 (.st 120), .range 48 53 (.st 119)],
  /- 136 -/ [.byte 58 (.st 139), .hexdigit (.st 137)],
  /- 137 -/ [.byte 58 (.st 139), .hexdigit (.st 138)],
  /- 138 -/ [.byte 58 (.st 139)],
  /- 139 -/ [.byte 58 (.st 123), .hexdigit (.st 140)],
  /- 140 -/ [.byte 93 (.tr 180), .hexdigit (.st 141)],
  /- 141 -/ [.byte 93 (.tr 180), .hexdigit (.st 142)],
  /- 142 -/ [.byte 93 (.tr 180), .hexdigit (.st 123)],
  /- 143 -/ [.byte 46 (.st 118), .byte 58 (.st 139), .range 48 57 (.st 144), .letter (.st 136)],
  /- 144 -/ [.byte 46 (.st 118), .byte 58 (.st 139), .range 48 57 (.st 145), .letter (.st 137)],
  /- 145 -/ [.byte 46 (.st 118), .byte 58 (.st 139), .hexdigit (.st 138)],
  /- 146 -/ [.byte 46 (.st 118), .byte 53 (.st 147), .byte 58 (.st 139), .range 48 52 (.st 144),
    .range 54 57 (.st 148), .letter (.st 136)],
  /- 147 -/ [.byte 46 (.st 118), .byte 58 (.st 139), .range 48 53 (.st 145),
    .range 54 57 (.st 137), .letter (.st 137)],
  /- 148 -/ [.byte 46 (.st 118), .byte 58 (.st 139), .hexdigit (.st 137)],
  /- 149 -/ [.byte 46 (.st 118), .byte 58 (.st 139), .range 48 57 (.st 148), .letter (.st 136)],
  /- 150 -/ [.byte 93 (.tr 180), .hexdigit (.st 140)],
  /- 151 -/ [.byte 58 (.st 139), .hexdigit (.st 136)],
  /- 152 -/ [.byte 48 (.st 153), .byte 49 (.st 158), .byte 50 (.st 161), .byte 93 (.tr 180),
    .range 51 57 (.st 164), .letter (.st 165)],
  /- 153 -/ [.byte 46 (.st 118), .byte 58 (.st 157), .byte 93 (.tr 180), .hexdigit (.st 154)],
  /- 154 -/ [.byte 58 (.st 157), .byte 93 (.tr 180), .hexdigit (.st 155)],
  /- 155 -/ [.byte 58 (.st 157), .byte 93 (.tr 180), .hexdigit (.st 156)],
  /- 156 -/ [.byte 58 (.st 157), .byte 93 (.tr 180)],
  /- 157 -/ [.hexdigit (.st 140)],
  /- 158 -/ [.byte 46 (.st 118), .byte 58 (.st 157), .byte 93 (.tr 180), .range 48 57 (.st 159),
    .letter (.st 154)],
  /- 159 -/ [.byte 46 (.st 118), .byte 58 (.st 157), .byte 93 (.tr 180), .range 48 57 (.st 160),
    .letter (.st 155)],
  /- 160 -/ [.byte 46 (.st 118), .byte 58 (.st 157), .byte 93 (.tr 180), .hexdigit (.st 156)],
  /- 161 -/ [.byte 46 (.st 118), .byte 53 (.st 162), .byte 58 (.st 157), .byte 93 (.tr 180),
    .range 48 52 (.st 159), .range 54 57 (.st 163), .letter (.st 154)],
  /- 162 -/ [.byte 46 (.st 118), .byte 58 (.st 157), .byte 93 (.tr 180), .range 48 53 (.st 160),
    .range 54 57 (.st 155), .letter (.st 155)],
  /- 163 -/ [.byte 46 (.st 118), .byte 58 (.st 157), .byte 93 (.tr 180), .hexdigit (.st 155)],
  /- 164 -/ [.byte 46 (.st 118), .byte 58 (.st 157), .byte 93 (.tr 180), .range 48 57 (.st 163),
    .letter (.st 154)],
  /- 165 -/ [.byte 58 (.st 157), .byte 93 (.tr 180), .hexdigit (.st 154)],
  /- 166 -/ [.byte 48 (.st 167), .byte 49 (.st 172), .byte 50 (.st 175), .byte 93 (.tr 180),
    .range 51 57 (.st 178), .letter (.st 179)],
  /- 167 -/ [.byte 46 (.st 118), .byte 58 (.st 171), .byte 93 (.tr 180), .hexdigit (.st 168)],
  /- 168 -/ [.byte 58 (.st 171), .byte 93 (.tr 180), .hexdigit (.st 169)],
  /- 169 -/ [.byte 58 (.st 171), .byte 93 (.tr 180), .hexdigit (.st 170)],
  /- 170 -/ [.byte 58 (.st 171), .byte 93 (.tr 180)],
  /- 171 -/ [.byte 48 (.st 153), .byte 49 (.st 158), .byte 50 (.st 161), .range 51 57 (.st 164),
    .letter (.st 165)],
  /- 172 -/ [.byte 46 (.st 118), .byte 58 (.st 171), .byte 93 (.tr 180), .range 48 57 (.st 173),
    .letter (.st 168)],
  /- 173 -/ [.byte 46 (.st 118), .byte 58 (.st 171), .byte 93 (.tr 180), .range 48 57 (.st 174),
    .letter (.st 169)],
  /- 174 -/ [.byte 46 (.st 118), .byte 58 (.st 171), .byte 93 (.tr 180), .hexdigit (.st 170)],
  /- 175 -/ [.byte 46 (.st 118), .byte 53 (.st 176), .byte 58 (.st 171), .byte 93 (.tr 180),
    .range 48 52 (.st 173), .range 54 57 (.st 177), .letter (.st 168)],
  /- 176 -/ [.byte 46 (.st 118), .byte 58 (.st 171), .byte 93 (.tr 180), .range 48 53 (.st 174),
    .range 54 57 (.st 169), .letter (.st 169)],
  /- 177 -/ [.byte 46 (.st 118), .byte 58 (.st 171), .byte 93 (.tr 180), .hexdigit (.st 169)],
  /- 178 -/ [.byte 46 (.st 118), .byte 58 (.st 171), .byte 93 (.tr 180), .range 48 57 (.st 177),
    .letter (.st 168)],
  /- 179 -/ [.byte 58 (.st 171), .byte 93 (.tr 180), .hexdigit (.st 168)],
  /- 180 -/ [.byte 48 (.st 181), .byte 49 (.st 186), .byte 50 (.st 189), .byte 93 (.tr 180),
    .range 51 57 (.st 192), .letter (.st 193)],
  /- 181 -/ [.byte 46 (.st 118), .byte 58 (.st 185), .byte 93 (.tr 180), .hexdigit (.st 182)],
  /- 182 -/ [.byte 58 (.st 185), .byte 93 (.tr 180), .hexdigit (.st 183)],
  /- 183 -/ [.byte 58 (.st 185), .byte 93 (.tr 180), .hexdigit (.st 184)],
  /- 184 -/ [.byte 58 (.st 185), .byte 93 (.tr 180)],
  /- 185 -/ [.byte 48 (.st 167), .byte 49 (.st 172), .byte 50 (.st 175), .range 51 57 (.st 178),
    .letter (.st 179)],
  /- 186 -/ [.byte 46 (.st 118), .byte 58 (.st 185), .byte 93 (.tr 180), .range 48 57 (.st 187),
    .letter (.st 182)],
  /- 187 -/ [.byte 46 (.st 118), .byte 58 (.st 185), .byte 93 (.tr 180), .range 48 57 (.st 188),
    .letter (.st 183)],
  /- 188 -/ [.byte 46 (.st 118), .byte 58 (.st 185), .byte 93 (.tr 180), .hexdigit (.st 184)],
  /- 189 -/ [.byte 46 (.st 118), .byte 53 (.st 190), .byte 58 (.st 185), .byte 93 (.tr 180),
    .range 48 52 (.st 187), .range 54 57 (.st 191), .letter (.st 182)],
  /- 190 -/ [.byte 46 (.st 118), .byte 58 (.st 185), .byte 93 (.tr 180), .range 48 53 (.st 188),
    .range 54 57 (.st 183), .letter (.st 183)],
  /- 191 -/ [.byte 46 (.st 118), .byte 58 (.st 185), .byte 93 (.tr 180), .hexdigit (.st 183)],
  /- 192 -/ [.byte 46 (.st 118), .byte 58 (.st 185), .byte 93 (.tr 180), .range 48 57 (.st 191),
    .letter (.st 182)],
  /- 193 -/ [.byte 58 (.st 185), .byte 93 (.tr 180), .hexdigit (.st 182)],
  /- 194 -/ [.byte 48 (.st 195), .byte 49 (.st 200), .byte 50 (.st 203), .byte 93 (.tr 180),
    .range 51 57 (.st 206), .letter (.st 207)],
  /- 195 -/ [.byte 46 (.st 118), .byte 58 (.st 199), .byte 93 (.tr 180), .hexdigit (.st 196)],
  /- 196 -/ [.byte 58 (.st 199), .byte 93 (.tr 180), .hexdigit (.st 197)],
  /- 197 -/ [.byte 58 (.st 199), .byte 93 (.tr 180), .hexdigit (.st 198)],
  /- 198 -/ [.byte 58 (.st 199), .byte 93 (.tr 180)],
  /- 199 -/ [.byte 48 (.st 181), .byte 49 (.st 186), .byte 50 (.st 189), .range 51 57 (.st 192),
    .letter (.st 193)],
  /- 200 -/ [.byte 46 (.st 118), .byte 58 (.st 199), .byte 93 (.tr 180), .range 48 57 (.st 201),
    .letter (.st 196)],
  /- 201 -/ [.byte 46 (.st 118), .byte 58 (.st 199), .byte 93 (.tr 180), .range 48 57 (.st 202),
    .letter (.st 197)],
  /- 202 -/ [.byte 46 (.st 118), .byte 58 (.st 199), .byte 93 (.tr 180), .hexdigit (.st 198)],
  /- 203 -/ [.byte 46 (.st 118), .byte 53 (.st 204), .byte 58 (.st 199), .byte 93 (.tr 180),
    .range 48 52 (.st 201), .range 54 57 (.st 205), .letter (.st 196)],
  /- 204 -/ [.byte 46 (.st 118), .byte 58 (.st 199), .byte 93 (.tr 180), .range 48 53 (.st 202),
    .range 54 57 (.st 197), .letter (.st 197)],
  /- 205 -/ [.byte 46 (.st 118), .byte 58 (.st 199), .byte 93 (.tr 180), .hexdigit (.st 197)],
  /- 206 -/ [.byte 46 (.st 118), .byte 58 (.st 199), .byte 93 (.tr 180), .range 48 57 (.st 205),
    .letter (.st 196)],
  /- 207 -/ [.byte 58 (.st 199), .byte 93 (.tr 180), .hexdigit (.st 196)],
  /- 208 -/ [.byte 48 (.st 209), .byte 49 (.st 214), .byte 50 (.st 217), .byte 93 (.tr 180),
    .range 51 57 (.st 220), .letter (.st 221)],
  /- 209 -/ [.byte 46 (.st 118), .byte 58 (.st 213), .byte 93 (.tr 180), .hexdigit (.st 210)],
  /- 210 -/ [.byte 58 (.st 213), .byte 93 (.tr 180), .hexdigit (.st 211)],
  /- 211 -/ [.byte 58 (.st 213), .byte 93 (.tr 180), .hexdigit (.st 212)],
  /- 212 -/ [.byte 58 (.st 213), .byte 93 (.tr 180)],
  /- 213 -/ [.byte 48 (.st 195), .byte 49 (.st 200), .byte 50 (.st 203), .range 51 57 (.st 206),
    .letter (.st 207)],
  /- 214 -/ [.byte 46 (.st 118), .byte 58 (.st 213), .byte 93 (.tr 180), .range 48 57 (.st 215),
    .letter (.st 210)],
  /- 215 -/ [.byte 46 (.st 118), .byte 58 (.st 213), .byte 93 (.tr 180), .range 48 57 (.st 216),
    .letter (.st 211)],
  /- 216 -/ [.byte 46 (.st 118), .byte 58 (.st 213), .byte 93 (.tr 180), .hexdigit (.st 212)],
  /- 217 -/ [.byte 46 (.st 118), .byte 53 (.st 218), .byte 58 (.st 213), .byte 93 (.tr 180),
    .range 48 52 (.st 215), .range 54 57 (.st 219), .letter (.st 210)],
  /- 218 -/ [.byte 46 (.st 118), .byte 58 (.st 213), .byte 93 (.tr 180), .range 48 53 (.st 216),
    .range 54 57 (.st 211), .letter (.st 211)],
  /- 219 -/ [.byte 46 (.st 118), .byte 58 (.st 213), .byte 93 (.tr 180), .hexdigit (.st 211)],
  /- 220 -/ [.byte 46 (.st 118), .byte 58 (.st 213), .byte 93 (.tr 180), .range 48 57 (.st 219),
    .letter (.st 210)],
  /- 221 -/ [.byte 58 (.st 213), .byte 93 (.tr 180), .hexdigit (.st 210)],
  /- 222 -/ [.byte 58 (.st 223)],
  /- 223 -/ [.byte 48 (.st 224), .byte 49 (.st 229), .byte 50 (.st 232), .byte 93 (.tr 180),
    .range 51 57 (.st 235), .letter (.st 236)],
  /- 224 -/ [.byte 46 (.st 118), .byte 58 (.st 228), .byte 93 (.tr 180), .hexdigit (.st 225)],
  /- 225 -/ [.byte 58 (.st 228), .byte 93 (.tr 180), .hexdigit (.st 226)],
  /- 226 -/ [.byte 58 (.st 228), .byte 93 (.tr 180), .hexdigit (.st 227)],
  /- 227 -/ [.byte 58 (.st 228), .byte 93 (.tr 180)],
  /- 228 -/ [.byte 48 (.st 209), .byte 49 (.st 214), .byte 50 (.st 217), .range 51 57 (.st 220),
    .letter (.st 221)],
  /- 229 -/ [.byte 46 (.st 118), .byte 58 (.st 228), .byte 93 (.tr 180), .range 48 57 (.st 230),
    .letter (.st 225)],
  /- 230 -/ [.byte 46 (.st 118), .byte 58 (.st 228), .byte 93 (.tr 180), .range 48 57 (.st 231),
    .letter (.st 226)],
  /- 231 -/ [.byte 46 (.st 118), .byte 58 (.st 228), .byte 93 (.tr 180), .hexdigit (.st 227)],
  /- 232 -/ [.byte 46 (.st 118), .byte 53 (.st 233), .byte 58 (.st 228), .byte 93 (.tr 180),
    .range 48 52 (.st 230), .range 54 57 (.st 234), .letter (.st 225)],
  /- 233 -/ [.byte 46 (.st 118), .byte 58 (.st 228), .byte 93 (.tr 180), .range 48 53 (.st 231),
    .range 54 57 (.st 226), .letter (.st 226)],
  /- 234 -/ [.byte 46 (.st 118), .byte 58 (.st 228), .byte 93 (.tr 180), .hexdigit (.st 226)],
  /- 235 -/ [.byte 46 (.st 118), .byte 58 (.st 228), .byte 93 (.tr 180), .range 48 57 (.st 234),
    .letter (.st 225)],
  /- 236 -/ [.byte 58 (.st 228), .byte 93 (.tr 180), .hexdigit (.st 225)],
  /- 237 -/ [],
  /- 238 -/ [.range 48 57 (.tr 24)],
  /- 239 -/ [.range 48 57 (.tr 21)],
  /- 240 -/ [.byte 53 (.tr 272), .range 48 52 (.tr 24), .range 54 57 (.tr 21)],
  /- 241 -/ [.range 48 53 (.tr 21)],
  /- 242 -/ [.range 48 57 (.tr 81)],
  /- 243 -/ [.range 48 57 (.tr 78)],
  /- 244 -/ [.byte 53 (.tr 273), .range 48 52 (.tr 81), .range 54 57 (.tr 78)],
  /- 245 -/ [.range 48 53 (.tr 78)],
  /- 246 -/ [.hexdigit (.tr 274)],
  /- 247 -/ [.hexdigit (.tr 275)],
  /- 248 -/ [.hexdigit (.tr 78)],
  /- 249 -/ [.hexdigit (.tr 86)],
  /- 250 -/ [.byte 48 (.tr 91), .byte 49 (.tr 92), .byte 50 (.tr 93), .range 51 57 (.tr 94),
    .letter (.tr 95)],
  /- 251 -/ [.byte 46 (.st 46), .byte 58 (.st 71), .hexdigit (.tr 276)],
  /- 252 -/ [.byte 58 (.st 71), .hexdigit (.tr 278)],
  /- 253 -/ [.byte 58 (.st 71), .hexdigit (.tr 279)],
  /- 254 -/ [.byte 58 (.st 71)],
  /- 255 -/ [.byte 46 (.st 46), .byte 58 (.st 71), .range 48 57 (.tr 280), .letter (.tr 276)],
  /- 256 -/ [.byte 46 (.st 46), .byte 58 (.st 71), .range 48 57 (.tr 281), .letter (.tr 278)],
  /- 257 -/ [.byte 46 (.st 46), .byte 58 (.st 71), .hexdigit (.tr 279)],
  /- 258 -/ [.byte 46 (.st 46), .byte 53 (.tr 282), .byte 58 (.st 71), .range 48 52 (.tr 280),
    .range 54 57 (.tr 283), .letter (.tr 276)],
  /- 259 -/ [.byte 46 (.st 46), .byte 58 (.st 71), .range 48 53 (.tr 281),
    .range 54 57 (.tr 278), .letter (.tr 278)],
  /- 260 -/ [.byte 46 (.st 46), .byte 58 (.st 71), .hexdigit (.tr 278)],
  /- 261 -/ [.byte 46 (.st 46), .byte 58 (.st 71), .range 48 57 (.tr 283), .letter (.tr 276)],
  /- 262 -/ [.byte 58 (.st 71), .hexdigit (.tr 276)],
  /- 263 -/ [.byte 48 (.tr 96), .byte 49 (.tr 97), .byte 50 (.tr 98), .range 51 57 (.tr 99),
    .letter (.tr 100)],
  /- 264 -/ [.byte 46 (.st 46), .byte 58 (.st 72), .hexdigit (.tr 284)],
  /- 265 -/ [.byte 58 (.st 72), .hexdigit (.tr 286)],
  /- 266 -/ [.byte 58 (.st 72), .hexdigit (.tr 287)],
  /- 267 -/ [.byte 58 (.st 72)],
  /- 268 -/ [.byte 46 (.st 46), .byte 58 (.st 72), .range 48 57 (.tr 288), .letter (.tr 284)],
  /- 269 -/ [.byte 46 (.st 46), .byte 58 (.st 72), .range 48 57 (.tr 289), .letter (.tr 286)],
  /- 270 -/ [.byte 46 (.st 46), .byte 58 (.st 72), .hexdigit (.tr 287)],
  /- 271 -/ [.byte 46 (.st 46), .byte 53 (.tr 290), .byte 58 (.st 72), .range 48 52 (.tr 288),
    .range 54 57 (.tr 291), .letter (.tr 284)],
  /- 272 -/ [.byte 46 (.st 46), .byte 58 (.st 72), .range 48 53 (.tr 289),
    .range 54 57 (.tr 286), .letter (.tr 286)],
  /- 273 -/ [.byte 46 (.st 46), .byte 58 (.st 72), .hexdigit (.tr 286)],
  /- 274 -/ [.byte 46 (.st 46), .byte 58 (.st 72), .range 48 57 (.tr 291), .letter (.tr 284)],
  /- 275 -/ [.byte 58 (.st 72), .hexdigit (.tr 284)],
  /- 276 -/ [.byte 48 (.tr 101), .byte 49 (.tr 102), .byte 50 (.tr 103), .range 51 57 (.tr 104),
    .letter (.tr 105)],
  /- 277 -/ [.byte 46 (.st 46), .byte 58 (.st 73), .hexdigit (.tr 292)],
  /- 278 -/ [.byte 58 (.st 73), .hexdigit (.tr 294)],
  /- 279 -/ [.byte 58 (.st 73), .hexdigit (.tr 295)],
  /- 280 -/ [.byte 58 (.st 73)],
  /- 281 -/ [.byte 46 (.st 46), .byte 58 (.st 73), .range 48 57 (.tr 296), .letter (.tr 292)],
  /- 282 -/ [.byte 46 (.st 46), .byte 58 (.st 73), .range 48 57 (.tr 297), .letter (.tr 294)],
  /- 283 -/ [.byte 46 (.st 46), .byte 58 (.st 73), .hexdigit (.tr 295)],
  /- 284 -/ [.byte 46 (.st 46), .byte 53 (.tr 298), .byte 58 (.st 73), .range 48 52 (.tr 296),
    .range 54 57 (.tr 299), .letter (.tr 292)],
  /- 285 -/ [.byte 46 (.st 46), .byte 58 (.st 73), .range 48 53 (.tr 297),
    .range 54 57 (.tr 294), .letter (.tr 294)],
  /- 286 -/ [.byte 46 (.st 46), .byte 58 (.st 73), .hexdigit (.tr 294)],
  /- 287 -/ [.byte 46 (.st 46), .byte 58 (.st 73), .range 48 57 (.tr 299), .letter (.tr 292)],
  /- 288 -/ [.byte 58 (.st 73), .hexdigit (.tr 292)],
  /- 289 -/ [.byte 48 (.tr 106), .byte 49 (.tr 107), .byte 50 (.tr 108), .range 51 57 (.tr 109),
    .letter (.tr 110)],
  /- 290 -/ [.byte 46 (.st 46), .byte 58 (.st 74), .hexdigit (.tr 300)],
  /- 291 -/ [.byte 58 (.st 74), .hexdigit (.tr 302)],
  /- 292 -/ [.byte 58 (.st 74), .hexdigit (.tr 303)],
  /- 293 -/ [.byte 58 (.st 74)],
  /- 294 -/ [.byte 46 (.st 46), .byte 58 (.st 74), .range 48 57 (.tr 304), .letter (.tr 300)],
  /- 295 -/ [.byte 46 (.st 46), .byte 58 (.st 74), .range 48 57 (.tr 305), .letter (.tr 302)],
  /- 296 -/ [.byte 46 (.st 46), .byte 58 (.st 74), .hexdigit (.tr 303)],
  /- 297 -/ [.byte 46 (.st 46), .byte 53 (.tr 306), .byte 58 (.st 74), .range 48 52 (.tr 304),
    .range 54 57 (.tr 307), .letter (.tr 300)],
  /- 298 -/ [.byte 46 (.st 46), .byte 58 (.st 74), .range 48 53 (.tr 305),
    .range 54 57 (.tr 302), .letter (.tr 302)],
  /- 299 -/ [.byte 46 (.st 46), .byte 58 (.st 74), .hexdigit (.tr 302)],
  /- 300 -/ [.byte 46 (.st 46), .byte 58 (.st 74), .range 48 57 (.tr 307), .letter (.tr 300)],
  /- 301 -/ [.byte 58 (.st 74), .hexdigit (.tr 300)],
  /- 302 -/ [.byte 48 (.tr 116), .byte 49 (.tr 117), .byte 50 (.tr 118), .range 51 57 (.tr 119),
    .letter (.tr 120)],
  /- 303 -/ [.byte 46 (.st 46), .byte 58 (.st 75), .hexdigit (.tr 308)],
  /- 304 -/ [.byte 58 (.st 75), .hexdigit (.tr 310)],
  /- 305 -/ [.byte 58 (.st 75), .hexdigit (.tr 311)],
  /- 306 -/ [.byte 58 (.st 75)],
  /- 307 -/ [.byte 46 (.st 46), .byte 58 (.st 75), .range 48 57 (.tr 312), .letter (.tr 308)],
  /- 308 -/ [.byte 46 (.st 46), .byte 58 (.st 75), .range 48 57 (.tr 313), .letter (.tr 310)],
  /- 309 -/ [.byte 46 (.st 46), .byte 58 (.st 75), .hexdigit (.tr 311)],
  /- 310 -/ [.byte 46 (.st 46), .byte 53 (.tr 314), .byte 58 (.st 75), .range 48 52 (.tr 312),
    .range 54 57 (.tr 315), .letter (.tr 308)],
  /- 311 -/ [.byte 46 (.st 46), .byte 58 (.st 75), .range 48 53 (.tr 313),
    .range 54 57 (.tr 310), .letter (.tr 310)],
  /- 312 -/ [.byte 46 (.st 46), .byte 58 (.st 75), .hexdigit (.tr 310)],
  /- 313 -/ [.byte 46 (.st 46), .byte 58 (.st 75), .range 48 57 (.tr 315), .letter (.tr 308)],
  /- 314 -/ [.byte 58 (.st 75), .hexdigit (.tr 308)],
  /- 315 -/ [.byte 48 (.tr 316), .byte 49 (.tr 317), .byte 50 (.tr 318), .range 51 57 (.tr 319),
    .letter (.tr 320)],
  /- 316 -/ [.byte 46 (.st 46), .byte 58 (.st 84), .hexdigit (.tr 321)],
  /- 317 -/ [.byte 58 (.st 84), .hexdigit (.tr 323)],
  /- 318 -/ [.byte 58 (.st 84), .hexdigit (.tr 324)],
  /- 319 -/ [.byte 58 (.st 84)],
  /- 320 -/ [.byte 46 (.st 46), .byte 58 (.st 84), .range 48 57 (.tr 325), .letter (.tr 321)],
  /- 321 -/ [.byte 46 (.st 46), .byte 58 (.st 84), .range 48 57 (.tr 326), .letter (.tr 323)],
  /- 322 -/ [.byte 46 (.st 46), .byte 58 (.st 84), .hexdigit (.tr 324)],
  /- 323 -/ [.byte 46 (.st 46), .byte 53 (.tr 327), .byte 58 (.st 84), .range 48 52 (.tr 325),
    .range 54 57 (.tr 328), .letter (.tr 321)],
  /- 324 -/ [.byte 46 (.st 46), .byte 58 (.st 84), .range 48 53 (.tr 326),
    .range 54 57 (.tr 323), .letter (.tr 323)],
  /- 325 -/ [.byte 46 (.st 46), .byte 58 (.st 84), .hexdigit (.tr 323)],
  /- 326 -/ [.byte 46 (.st 46), .byte 58 (.st 84), .range 48 57 (.tr 328), .letter (.tr 321)],
  /- 327 -/ [.byte 58 (.st 84), .hexdigit (.tr 321)]]

/-- The `tr` blocks: their number, the `ip_type` their action sets and the state they go to. -/
def transitions : List (Nat × IpType × Nat) := [
  (21, .ipv4, 237), (22, .ipv4, 238), (23, .ipv4, 240), (24, .ipv4, 239), (30, .ipv6, 302),
  (36, .ipv6, 289), (42, .ipv6, 276), (48, .ipv6, 263), (54, .ipv6, 250), (63, .ipv6, 249),
  (78, .ipv6, 237), (79, .ipv6, 242), (80, .ipv6, 244), (81, .ipv6, 243), (86, .ipv6, 246),
  (91, .ipv6, 251), (92, .ipv6, 255), (93, .ipv6, 258), (94, .ipv6, 261), (95, .ipv6, 262),
  (96, .ipv6, 264), (97, .ipv6, 268), (98, .ipv6, 271), (99, .ipv6, 274), (100, .ipv6, 275),
  (101, .ipv6, 277), (102, .ipv6, 281), (103, .ipv6, 284), (104, .ipv6, 287), (105, .ipv6, 288),
  (106, .ipv6, 290), (107, .ipv6, 294), (108, .ipv6, 297), (109, .ipv6, 300), (110, .ipv6, 301),
  (115, .ipv6, 315), (116, .ipv6, 303), (117, .ipv6, 307), (118, .ipv6, 310), (119, .ipv6, 313),
  (120, .ipv6, 314), (180, .ipv6Reference, 237), (272, .ipv4, 241), (273, .ipv6, 245),
  (274, .ipv6, 247), (275, .ipv6, 248), (276, .ipv6, 252), (278, .ipv6, 253), (279, .ipv6, 254),
  (280, .ipv6, 256), (281, .ipv6, 257), (282, .ipv6, 259), (283, .ipv6, 260), (284, .ipv6, 265),
  (286, .ipv6, 266), (287, .ipv6, 267), (288, .ipv6, 269), (289, .ipv6, 270), (290, .ipv6, 272),
  (291, .ipv6, 273), (292, .ipv6, 278), (294, .ipv6, 279), (295, .ipv6, 280), (296, .ipv6, 282),
  (297, .ipv6, 283), (298, .ipv6, 285), (299, .ipv6, 286), (300, .ipv6, 291), (302, .ipv6, 292),
  (303, .ipv6, 293), (304, .ipv6, 295), (305, .ipv6, 296), (306, .ipv6, 298), (307, .ipv6, 299),
  (308, .ipv6, 304), (310, .ipv6, 305), (311, .ipv6, 306), (312, .ipv6, 308), (313, .ipv6, 309),
  (314, .ipv6, 311), (315, .ipv6, 312), (316, .ipv6, 316), (317, .ipv6, 320), (318, .ipv6, 323),
  (319, .ipv6, 326), (320, .ipv6, 327), (321, .ipv6, 317), (323, .ipv6, 318), (324, .ipv6, 319),
  (325, .ipv6, 321), (326, .ipv6, 322), (327, .ipv6, 324), (328, .ipv6, 325)]

def inRange (lo hi : Nat) (b : UInt8) : Bool := Nat.ble lo b.toNat && Nat.ble b.toNat hi

def isLetter (b : UInt8) : Bool := inRange 65 70 b || inRange 97 102 b

def isHexdigit (b : UInt8) : Bool := inRange 48 57 b || isLetter b

/-- The label an arm goes to on the byte `*p`, if it takes the byte. -/
def Arm.fire : Arm → UInt8 → Option Label
  | .byte c goto, b => bif inRange c c b then some goto else none
  | .range lo hi goto, b => bif inRange lo hi b then some goto else none
  | .hexdigit goto, b => bif isHexdigit b then some goto else none
  | .letter goto, b => bif isLetter b then some goto else none

def casesTree : Braun.Tree (List Arm) := Braun.ofList cases

/-- The arms of `case cs`. -/
def arms (cs : Nat) : List Arm := (Braun.get casesTree cs).getD []

theorem arms_eq (cs : Nat) : arms cs = (cases[cs]?).getD [] := by
  rw [arms, casesTree, Braun.get_ofList]

-- Only the kernel is to compute with the table.
attribute [irreducible] arms

/-- The state after the byte `*p` and the `ip_type` set on the way; `none` is `st0`. -/
def goto (cs : Nat) (b : UInt8) : Option (Nat × Option IpType) :=
  match (arms cs).findSome? fun arm : Arm => arm.fire b with
  | none => none
  | some (.st n) => some (n, none)
  | some (.tr n) => (transitions.lookup n).map fun t => (t.2, some t.1)

/-- The generated loop from `case cs` with `p` before `pe`: the final `p` and `ip_type`. -/
def exec (pe : Int) : Nat → IpType → Int → List UInt8 → Int × IpType
  -- `*p` is the NUL that ends the text: no case has an arm for it.
  | _, ipType, p, [] => (p, ipType)
  | cs, ipType, p, b :: rest =>
    match goto cs b with
    | none => (p, ipType)
    | some (cs', action) =>
      let ipType' := action.getD ipType
      if p + 1 = pe then (p + 1, ipType') else exec pe cs' ipType' (p + 1) rest

/-- `ae_ip_parser_execute` on a buffer that holds the bytes `str` and a NUL after them. -/
def aeIpParserExecute (str : List UInt8) (len : Int) : IpType :=
  let final := if len = 0 then (0, .noIp) else exec len 1 .noIp 0 str
  if len ≠ final.1 then .noIp else final.2

end AsyncEngine.IpParser.Machine
