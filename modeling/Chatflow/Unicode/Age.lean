import Chatflow.Unicode.CodeSet

/-!
# Ages

The version of the standard in which every code point was assigned, as runs: the length of the
run in hexadecimal, then `V` and the digits of the version, or `NA` where nothing is assigned.
-/

namespace Chatflow

namespace Unicode

namespace Age

/-- The runs, from the first code point to the last. -/
def runs : List String := [
  "1f6V11 4V30 1eV11 8V30 1V32 1V40 12V30 3V40 bV41 eV50 59V11 5V30 2V40 2fV11 1V30 aV11 5V30",
  "11V40 46V11 9V30 1V32 8V40 5V41 3V40 2V11 1V30 dV32 4V51 2V11 2V51 2NA 1V11 3V50 1V11 1V70",
  "4NA 7V11 1NA 1V11 1NA 14V11 1NA 2cV11 1V51 7V11 1V30 2V32 1V11 1V30 1V11 1V30 1V11 1V30",
  "1V11 1V30 12V11 2V31 1V32 5V40 4V41 1V30 cV11 1V30 42V11 1V30 cV11 1V30 29V11 1V51 2V30",
  "2V32 4V30 35V11 2V32 2V11 2V32 2V11 2V32 1V50 1cV11 2V30 8V11 2V41 2V11 6V50 10V32 4V50",
  "10V51 2V52 2V60 8V70 1NA 26V11 2NA 7V11 1V110 27V11 1V110 1V11 1V30 2NA 2V70 1V61 1NA",
  "11V20 1V41 dV20 aV11 1V50 9V11 1V20 3V41 8NA 1bV11 4NA 1V110 5V11 bNA 4V40 1V61 1V70 5V51",
  "1V41 1V11 9V40 5V51 1V11 1V63 1V140 1V41 1V11 1V60 1aV11 5V51 13V11 3V30 3V40 6V41 1V60",
  "eV11 2V32 48V11 2V30 5V11 1V30 fV11 1V30 1eV11 2V40 aV11 5V30 1V40 eV30 1NA 1eV30 3V40",
  "1bV30 2NA 3V40 1eV41 12V51 31V30 1V32 eNA 3bV50 2NA 3V110 2eV52 2NA fV52 1NA 1cV60 2NA",
  "1V60 1NA bV100 5NA 1fV140 1NA 2V140 6NA 8V140 1V61 1V70 bV61 6V70 2V80 1V140 8V90 aV130",
  "bV140 1V110 fV90 1V80 1bV61 1V70 1V52 3V11 1V40 35V11 2V60 12V11 1V52 1V60 5V11 1V52 2V60",
  "19V11 2V51 5V60 1V70 2V52 2V50 1V41 2V50 1V70 3V11 1NA 8V11 2NA 2V11 2NA 16V11 1NA 7V11",
  "1NA 1V11 3NA 4V11 2NA 1V11 1V40 7V11 2NA 2V11 2NA 3V11 1V41 8NA 1V11 4NA 2V11 1NA 5V11 2NA",
  "15V11 1V52 2V100 1V110 2NA 1V40 1V11 1V40 1NA 6V11 4NA 2V11 2NA 16V11 1NA 7V11 1NA 2V11",
  "1NA 2V11 1NA 2V11 2NA 1V11 1NA 5V11 4NA 2V11 2NA 3V11 3NA 1V51 7NA 4V11 1NA 1V11 7NA fV11",
  "1V51 1V110 aNA 3V11 1NA 7V11 1V40 1V11 1NA 3V11 1NA 16V11 1NA 7V11 1NA 2V11 1NA 5V11 2NA",
  "aV11 1NA 3V11 1NA 3V11 2NA 1V11 fNA 1V11 3V40 2NA aV11 1V61 1V40 7NA 1V80 6V100 1NA 3V11",
  "1NA 8V11 2NA 2V11 2NA 16V11 1NA 7V11 1NA 2V11 1NA 1V40 4V11 2NA 8V11 1V51 2NA 2V11 2NA",
  "3V11 7NA 1V130 2V11 4NA 2V11 1NA 3V11 2V51 2NA bV11 1V40 6V60 aNA 2V11 1NA 6V11 3NA 3V11",
  "1NA 4V11 3NA 2V11 1NA 1V11 1NA 2V11 3NA 2V11 3NA 3V11 3NA 8V11 1V41 3V11 4NA 5V11 3NA 3V11",
  "1NA 4V11 2NA 1V51 6NA 1V11 eNA 1V41 cV11 8V40 5NA 1V70 3V11 1V110 8V11 1NA 3V11 1NA 17V11",
  "1NA aV11 1V70 5V11 2NA 1V140 1V51 7V11 1NA 3V11 1NA 4V11 7NA 2V11 1NA 2V51 1V80 2NA 1V140",
  "2NA 2V11 2V51 2NA aV11 7NA 1V120 8V51 1V90 1V70 2V11 1V110 8V11 1NA 3V11 1NA 17V11 1NA",
  "aV11 1NA 5V11 2NA 2V40 7V11 1NA 3V11 1NA 4V11 7NA 2V11 6NA 1V140 1V11 1NA 2V11 2V50 2NA",
  "aV11 1NA 2V50 1V150 cNA 1V100 1V70 2V11 1V130 8V11 1NA 3V11 1NA 17V11 1V60 10V11 1V60",
  "2V100 1V51 6V11 1V51 1NA 3V11 1NA 4V11 1V60 1V90 4NA 3V90 1V11 7V90 1V80 2V11 2V51 2NA",
  "aV11 6V51 3V90 7V51 1NA 1V130 2V30 1NA 12V30 3NA 18V30 1NA 9V30 1NA 1V30 2NA 7V30 3NA 1V30",
  "4NA 6V30 1NA 1V30 1NA 8V30 6NA aV70 2NA 3V30 cNA 3aV11 4NA 1dV11 25NA 2V11 1NA 1V11 1NA",
  "1V120 2V11 1V120 1V11 1NA 1V120 1V11 6V120 4V11 1V120 7V11 1V120 3V11 1NA 1V11 1NA 1V11",
  "2V120 2V11 1V120 dV11 1V120 3V11 2NA 5V11 1NA 1V11 1NA 6V11 1V150 1NA aV11 2NA 2V11 2V61",
  "20NA 48V20 1NA 21V20 1V30 2V51 4NA 1bV20 4V60 6V20 1V30 1V20 1NA 15V20 3V30 7V20 1V30 1V20",
  "3V30 1NA fV30 1NA 1V51 1V30 2V41 3V51 4V52 2V60 25NA 22V30 1V51 5V30 1V51 2V30 1V51 7V30",
  "3V51 4V30 6V51 1aV30 40V51 4V52 2V51 26V11 1NA 1V61 5NA 1V61 2NA 27V11 2V32 2V41 1V11 1V41",
  "3V61 5aV11 5V52 44V11 5V52 52V11 6V52 7V30 1V41 3fV30 1V41 1V30 1NA 4V30 2NA 7V30 1NA 1V30",
  "1NA 4V30 2NA 27V30 1V41 1V30 1NA 4V30 2NA 1fV30 1V41 1V30 1NA 4V30 2NA 7V30 1NA 1V30 1NA",
  "4V30 2NA 7V30 1V41 7V30 1NA 17V30 1V41 1fV30 1V41 1V30 1NA 4V30 2NA 7V30 1V41 27V30 1V41",
  "13V30 2NA 2V60 2V41 1cV30 3NA 1aV41 6NA 55V30 1V80 2NA 6V80 2NA 1V52 276V30 9V52 1dV30 3NA",
  "51V30 8V70 7NA dV32 1V140 7V32 1V140 9NA 1V140 17V32 9NA 14V32 cNA dV32 1NA 3V32 1NA 2V32",
  "cNA 5dV30 1V40 2NA aV30 6NA aV40 6NA fV30 1V140 aV30 6NA 58V30 1V110 7NA 2aV30 1V51 5NA",
  "46V52 aNA 1dV40 2V70 1NA cV40 4NA cV40 4NA 1V40 3NA 2aV40 2NA 5V40 bNA 2aV41 2V52 4NA",
  "1aV41 6NA aV41 1V52 3NA 2V41 20V40 1cV41 2NA 2V41 3fV52 1NA 1dV52 2NA bV52 6NA aV52 6NA",
  "eV52 2NA fV70 2V130 eV140 31NA 4cV50 1V140 3NA 2dV50 2V140 1NA 2bV51 3V61 cV51 6V61 34V60",
  "8NA 4V60 38V51 3NA fV51 3NA 33V51 9V90 7NA 2bV110 2NA 3V110 8V61 8NA 23V52 4V61 1V100 2V70",
  "1V120 5NA 6cV40 58V41 7V50 1cV51 fV70 4V100 1V140 1V90 1V60 1V52 2V50 9bV11 1V20 4V51",
  "5aV11 6V51 16V11 2NA 6V11 2NA 26V11 2NA 6V11 2NA 8V11 1NA 1V11 1NA 1V11 1NA 1V11 1NA 1fV11",
  "2NA 35V11 1NA fV11 1NA eV11 2NA 6V11 1NA 13V11 2NA 3V11 1NA 9V11 1NA 2fV11 1V30 17V11 1V32",
  "6V30 5V32 2V40 2V41 1V32 7V41 5V32 1V51 1NA 4V63 7V11 1V32 2NA 1bV11 1NA 5V41 8V60 3NA",
  "bV11 1V20 1V21 3V30 2V32 4V41 3V52 1V60 1V62 3V70 1V80 1V100 1V140 fNA 12V11 2V30 7V32",
  "1V41 4V50 1V51 fNA 39V11 2V30 1V40 1V41 fV32 1V41 2V50 1V51 3V52 30V11 1V30 1V50 4V51 1V52",
  "2V80 4NA 5bV11 9V30 cV32 f2V11 eV32 1V11 1V30 79V11 1V30 1V32 1eV30 34V32 2V40 bV41 cV50",
  "1V52 bV60 7V70 4V90 1V100 25V11 2V30 19NA bV11 15NA 8bV11 14V32 1V40 96V11 aV32 50V11 8V30",
  "8V32 14V11 2V40 2V32 1V41 1V30 56V11 2V30 cV32 2V41 aV32 8V40 bV41 1V51 2V52 2V40 10V41",
  "1V50 aV51 3V52 4V51 aV52 1V60 13V52 1V60 1V52 4V60 18V52 1V70 4V11 1V60 4V11 2V60 1cV11",
  "1V60 23V11 1V60 1V11 1V60 4V11 3V60 1V11 1V52 7V11 2V60 7V11 eV32 1fV11 3V60 18V11 1V60",
  "eV11 1V60 7V41 4V50 1V61 1V51 1V61 2V60 1cV32 4V51 10V32 100V30 200V32 eV40 6V41 7V50 5V51",
  "4V50 29V51 3V70 5V51 5V52 1aV70 2NA 20V70 1NA 1V130 22V70 3V110 cV70 1V120 8V70 1V100",
  "19V110 4V80 fV110 1V120 2fV41 1V140 2fV41 1V140 dV50 3V51 1V52 3V51 4V50 6V51 2V52 6bV41",
  "7V52 2V61 5NA 2dV41 1NA 1V61 5NA 1V61 2NA 36V41 2V61 7NA 1V41 1V60 eNA 1V60 17V41 9NA 7V41",
  "1NA 7V41 1NA 7V41 1NA 7V41 1NA 7V41 1NA 7V41 1NA 7V41 1NA 7V41 1NA 20V51 18V41 4V51 2V41",
  "13V51 1V52 aV61 7V70 2V90 5V100 5V110 1V120 3V130 bV140 22NA 1aV30 1NA 59V30 cNA d6V30",
  "1aNA cV30 4NA 38V11 3V30 3V32 1V30 1V11 1NA 54V11 2V32 2NA 6V11 2V32 5eV11 1V32 5NA 28V11",
  "1V51 1V100 1V110 1NA 5eV11 1NA 10V11 18V30 3V60 5V130 10V41 14V51 cNA 10V32 1dV11 2V40 1NA",
  "24V11 cV52 1V40 fV32 1cV11 2V40 1V41 32V11 fV32 cV11 4V40 2fV11 1V121 77V11 4V40 63V11",
  "2V40 1fV11 1V40 19b6V30 aV130 40V40 51a6V11 16V41 8V51 8V52 1V61 9V80 15V100 5V110 dV130",
  "3V140 48dV30 3NA 12V30 2V32 10V30 1V32 cV30 1V32 3V30 1V32 1V30 9NA 30V52 12cV51 14NA",
  "20V51 2V60 12V51 8V61 1cV51 6V70 1V80 1V61 58V52 8NA 17V41 4V50 5V51 2V50 6bV51 2V60 1V80",
  "2V60 2V61 cV70 aV60 1V61 3V70 1V90 1V110 2V70 6V80 2V110 6V120 2V140 5V120 4V130 5NA 2V140",
  "1NA 1V140 1NA 5V140 18NA 3V140 2V130 1V70 2V61 1V60 5V51 2cV41 1V130 3NA aV52 6NA 38V50",
  "8NA 45V51 1V90 8NA cV51 6NA 1cV52 2V80 2V110 54V51 bNA 1V51 1dV52 3NA 4eV52 1NA bV52 4NA",
  "2V52 1fV70 1NA 37V51 9NA eV51 2NA aV51 2NA 4V51 1cV52 4V70 43V52 18NA 5V52 17V61 aNA 6V60",
  "2NA 6V60 2NA 6V60 9NA 7V60 1NA 7V60 1NA 30V70 4V80 2V70 2V120 4V130 4NA 50V80 2eV52 2NA",
  "aV52 6NA 2ba4V20 cNA 17V52 4NA 31V52 4NA 800V20 1a2eV11 2V61 3bV32 3V52 2NA 6aV41 26NA",
  "7V11 cNA 5V11 5NA 1V30 19V11 1NA 5V11 1NA 1V11 1NA 2V11 1NA 2V11 1NA 6cV11 10V60 1V140",
  "10NA 16dV11 10V140 40V11 2NA 36V11 7NA 1V140 20V31 cV11 1V32 1V40 2V140 10V32 aV41 6NA",
  "4V11 3V51 7V70 2V80 15V11 2V32 2V40 aV11 1NA 13V11 1NA 4V11 4NA 3V11 1V32 1V11 1NA 87V11",
  "2NA 1V11 1NA 5eV11 2V32 5eV11 3NA 6V11 2NA 6V11 2NA 6V11 2NA 3V11 3NA 7V11 1NA 7V11 aNA",
  "3V30 1V21 3V11 cV40 1NA 1aV40 1NA 13V40 1NA 2V40 1NA fV40 2NA eV40 22NA 7bV40 5NA 3V40 4NA",
  "2dV40 3NA 9V40 4bV41 2V70 2V90 1NA cV51 1V130 3NA 1V70 2fNA 2eV51 82NA 1dV51 3NA 31V51 fNA",
  "1cV70 4NA 1fV31 1V70 4V31 9NA 3V100 1bV31 5NA 2bV70 5NA 1eV40 1NA 1V40 24V41 4NA eV41 2aNA",
  "26V31 2V40 26V31 50V40 2NA aV40 6NA 24V90 4NA 24V90 4NA 28V70 8NA 34V70 bNA 1V70 bV140 1NA",
  "fV140 1NA 7V140 1NA 2V140 1NA bV140 1NA fV140 1NA 7V140 1NA 2V140 43NA 137V70 9NA 16V70",
  "aNA 8V70 18NA 6V140 1NA 2aV140 1NA 9V140 45NA 6V40 2NA 1V40 1NA 2cV40 1NA 2V40 3NA 1V40",
  "2NA 1V40 16V52 1NA 9V52 3fV70 8NA 9V70 30NA 13V80 1NA 2V80 5NA 5V80 1aV50 2V52 3NA 1V50",
  "1aV51 5NA 1V51 40NA 38V61 4NA 2V80 2V61 10V80 2NA 2eV80 4V41 1NA 2V41 5NA 8V41 1NA 3V41",
  "1NA 1bV41 2V110 2NA 3V41 4NA 9V41 1V110 7NA 9V41 7NA 20V52 20V70 20NA 27V70 4NA cV70 9NA",
  "36V52 3NA 1dV52 2NA 1bV52 5NA 8V52 12V70 7NA 4V70 cNA 7V70 50NA 49V52 37NA 33V80 dNA 33V80",
  "7NA 6V80 28V110 8NA aV110 126NA 1fV52 1NA 2aV130 1NA 3V130 2NA 2V130 4bNA 3V150 28V110 8NA",
  "2aV110 16NA 1aV140 26NA 1cV130 14NA 17V120 9NA 4eV60 4NA 1eV60 6V140 9NA 1V70 42V52 1V140",
  "aNA 1V110 2NA 19V61 7NA aV61 6NA 35V61 1NA eV61 3V110 1V130 8NA 27V70 9NA 49V61 4V80 1V70",
  "2V130 aV61 1V70 5V80 1NA 14V70 bNA 12V70 1NA 2bV70 1V90 3V150 3eNA 7V80 1NA 1V80 1NA 4V80",
  "1NA fV80 1NA bV80 6NA 3bV70 5NA aV70 6NA 1V80 3V70 1NA 8V70 2NA 2V70 2NA 16V70 1NA 7V70",
  "1NA 2V70 1NA 5V70 1NA 1V110 9V70 2NA 2V70 2NA 3V70 2NA 1V80 6NA 1V70 5NA 7V70 2NA 7V70 3NA",
  "5V70 8bNA 5aV90 1V130 1V90 1NA 1V90 1V110 1V120 2V130 1eNA 48V70 8NA aV70 a6NA 36V70 2NA",
  "12V70 14V80 22NA 45V70 bNA aV70 6NA dV90 13NA 38V61 1V120 1V140 6NA aV61 36NA 1aV80 1V110",
  "2NA fV80 4NA 10V80 7V140 b9NA 3cV110 64NA 53V70 cNA 1V70 7V130 2NA 1V130 2NA 8V130 1NA",
  "2V130 1NA 1eV130 1NA 2V130 2NA cV130 9NA aV130 46NA 8V120 2NA 2eV120 2NA bV120 1bNA 48V100",
  "8NA 34V100 2V120 17V100 1V110 5V100 dNA 10V140 39V70 7NA aV150 f6NA 9V90 1NA 2dV90 1NA",
  "eV90 aNA 1dV90 3NA 20V90 2NA 16V90 1NA eV90 49NA 7V100 1NA 2V100 1NA 2cV100 3NA 1V100 1NA",
  "2V100 1NA 9V100 8NA aV100 6NA 6V110 1NA 2V110 1NA 25V110 1NA 2V110 1NA 6V110 7NA aV110",
  "136NA 19V110 7NA 11V150 1NA 29V150 3NA 1cV150 56NA 1V130 fNA 32V120 dNA 1V120 36fV50 2aV70",
  "1V80 66NA 63V50 cV70 1NA 4V50 1V70 bNA c4V80 a4cNA 63V140 dNA 42fV52 1V150 9V120 1dV150",
  "faaNA 247V80 21b9NA 239V60 7NA 1fV70 1NA aV70 4NA 2V70 4fV140 1NA aV140 6NA 1eV70 2NA 6V70",
  "aNA 46V70 aNA aV70 1NA 7V70 1NA 15V70 5NA 13V70 2b0NA 5bV110 65NA 45V61 6V120 4NA 1V120",
  "2fV61 9V120 7NA 11V61 40NA 1V90 1V100 2V120 1V130 bNA 2V130 eNA 17edV90 5V110 6V120 8NA",
  "2f3V90 1e3V130 2aNA 9V130 22e7NA 4V140 1NA 7V140 1NA 2V140 1NA 2V60 11dV100 4V140 fNA",
  "1V150 1dNA 3V120 2NA 1V150 eNA 4V120 8NA 18cV100 904NA 6bV70 5NA dV70 3NA 9V70 7NA aV70",
  "2NA 8V70 125cNA 2eV140 2NA 17V140 9NA 74V140 3cNA f6V31 aNA 27V31 2NA 1V51 b4V31 bV80",
  "2V140 15NA 46V41 7aNA 14V150 cNA 14V110 cNA 57V40 9NA 12V50 7V110 87NA 55V31 1NA 47V31 1NA",
  "2V31 2NA 1V31 2NA 2V31 2NA 4V31 1NA cV31 1NA 1V31 1NA 4V31 1V40 2V31 1NA 41V31 1NA 4V31",
  "2NA 8V31 1NA 7V31 1NA 1cV31 1NA 4V31 1NA 5V31 1NA 1V31 3NA 7V31 1NA 152V31 2V41 2NA 122V31",
  "2V50 2NA 32V31 28cV80 fNA 5V80 1NA fV80 450NA 1fV140 6NA 6V150 d5NA 7V90 1NA 11V90 2NA",
  "7V90 1NA 2V90 1NA 5V90 5NA 3eV150 21NA 1V150 70NA 2dV120 3NA eV120 2NA aV120 4NA 2V120",
  "140NA 1fV140 11NA 3aV120 5NA 1V120 1d0NA 2aV150 2e6NA 7V140 1NA 4V140 1NA 2V140 1NA fV140",
  "1NA c5V70 2NA 10V70 29NA 4bV90 1V120 4NA aV90 4NA 2V90 311NA 44V110 4cNA 3dV120 c2NA 4V61",
  "1NA 1bV61 1NA 2V61 1NA 1V61 2NA 1V61 1NA aV61 1NA 4V61 1NA 1V61 1NA 1V61 6NA 1V61 4NA 1V61",
  "1NA 1V61 1NA 1V61 1NA 3V61 1NA 2V61 1NA 1V61 2NA 1V61 1NA 1V61 1NA 1V61 1NA 1V61 1NA 1V61",
  "1NA 2V61 1NA 1V61 2NA 4V61 1NA 7V61 1NA 4V61 1NA 4V61 1NA 1V61 1NA aV61 1NA 11V61 5NA 3V61",
  "1NA 5V61 1NA 11V61 34NA 2V61 10eNA 2cV51 4NA 64V51 cNA fV60 2NA eV60 1V70 1NA fV60 1NA",
  "fV60 16V70 aNA bV52 2V70 3V130 1fV52 1V110 1V60 1V52 bV60 1V52 1V60 1V52 2V60 1V52 3V60",
  "1V52 3V60 5V52 8V60 1V52 7V60 1V52 aV60 2V61 1V120 3V130 9V60 1V52 1V60 2V52 2V60 1V52",
  "aV60 4V52 2V60 1V52 aV60 12V90 1V130 38NA 1aV60 1V52 2V60 dNA 22V52 9V60 1V90 4NA 9V52 7NA",
  "2V60 eNA 6V100 9aNA 21V60 cV70 3V80 6V60 1V70 46V60 1V70 2V80 14V60 cV70 25V60 1V70 5V60",
  "4V70 5V80 cV70 11V60 7V70 8V80 3fV60 1V70 1V60 1V70 b6V60 1V70 4V60 2V70 1V80 3eV60 2V70",
  "4V61 7V70 5V80 18V60 12V70 1V90 29V70 1V90 56V70 5V60 1V61 10V60 1V61 3V60 1V61 1V60 1V61",
  "1V60 1V61 1V60 1V61 3V60 1V61 6V60 2V61 4V60 1V61 1V60 2V61 4V60 1V61 cV60 2V70 2V80 bV60",
  "30V70 46V60 aV70 1V80 2V90 2V100 1V120 2V130 4NA 1V150 3V140 dV70 3NA 4V70 3V90 2V100",
  "1V110 1V120 2V130 3NA 74V60 3V150 4NA 5V150 55V70 4V110 1V150 6NA cV120 4NA 1V140 fNA cV70",
  "4NA 38V70 8NA aV70 6NA 28V70 8NA 1eV70 2NA 2V130 4eNA cV100 1V130 3V120 9V80 6V90 1V100",
  "8V90 8V100 1V90 2V100 cV90 1V120 cV90 1V100 3V110 fV90 dV100 5V110 1V120 1V130 4V110 2V130",
  "1V140 1V110 1V120 4V110 5V80 dV90 6V100 bV110 2V130 6V120 3V130 2V120 aV110 6V120 1V80",
  "2V110 8V120 1V130 1V140 3V120 17V100 19V110 54V120 cNA eV110 2NA 4V120 1V130 3V150 3V120",
  "2V140 3NA 3V120 4V130 2V150 7NA 6V120 13V130 4V140 3V150 7V130 4V140 3V150 1NA 1V150 3V130",
  "3V140 8NA 2V150 7V130 3V140 2V150 4NA 8V140 1V150 7NA 7V140 2V150 7NA 93V130 1NA 37V130",
  "25NA aV130 404NA 2V20 a6d7V31 7V130 2V140 20NA 1035V52 4V140 1V150 6NA deV60 2NA 1682V80",
  "eNA 1d31V100 c1fNA 21eV31 5e0NA 2V20 134bV130 5NA 1060V150 dc4eNA 2V20 fffeNA 2V20 fffeNA",
  "2V20 fffeNA 2V20 fffeNA 2V20 fffeNA 2V20 fffeNA 2V20 fffeNA 2V20 fffeNA 2V20 fffeNA 2V20",
  "fffeNA 2V20 1NA 1V31 1eNA 60V31 80NA f0V40 fe0eNA 20002V20 0NA"]

/-- The number of the version of a label, major times ten plus minor. -/
def version? (label : String) : Option Nat :=
  match label.toList with
  | 'V' :: digits => (String.ofList digits).toNat?
  | _ => none

/-- The number of the version of an age name such as `6.0` or `v60`. -/
def versionOfName? (name : String) : Option Nat :=
  match name.toList with
  | 'v' :: digits => (String.ofList digits).toNat?
  | _ =>
    match name.splitToList (· = '.') with
    | [major, minor] => (major ++ minor).toNat?
    | _ => none

/-- The code points assigned in a version or before it. -/
def ofName? (name : String) : Option CodeSet := do
  let wanted ← versionOfName? name
  let known := (labelledRuns runs).filterMap fun r => (version? r.1).map fun v => (v, r.2)
  if known.any (·.1 = wanted) then
    some (CodeSet.ofRanges ((known.filter (·.1 ≤ wanted)).map (·.2)))
  else none

end Age

end Unicode

end Chatflow
