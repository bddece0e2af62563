import RemoteTable.Unicode.Table

/-!
The version of Unicode that first had a character, up to version 16.0.
-/

namespace RemoteTable
namespace Unicode
namespace Age

/-- The versions, in order. -/
def versions : List String :=
  ["1.1", "2.0", "2.1", "3.0", "3.1", "3.2", "4.0", "4.1", "5.0", "5.1", "5.2", "6.0", "6.1",
    "6.2", "6.3", "7.0", "8.0", "9.0", "10.0", "11.0", "12.0", "12.1", "13.0", "14.0", "15.0",
    "15.1", "16.0"]

/-- The first version of each character, and `none` for a character that no version has. -/
def text : String :=
  "1.1*502 3.0*4 1.1*30 3.0*8 3.2 4.0 3.0*18 4.0*3 4.1*11 5.0*14 1.1*89 3.0*5 4.0*2 1.1*47 3.0
   1.1*10 3.0*5 4.0*17 1.1*70 3.0*9 3.2 4.0*8 4.1*5 4.0*3 1.1*2 3.0 3.2*13 5.1*4 1.1*2 5.1*2
   none*2 1.1 5.0*3 1.1 7.0 none*4 1.1*7 none 1.1 none 1.1*20 none 1.1*44 5.1 1.1*7 3.0 3.2*2 1.1
   3.0 1.1 3.0 1.1 3.0 1.1 3.0 1.1*18 3.1*2 3.2 4.0*5 4.1*4 3.0 1.1*12 3.0 1.1*66 3.0 1.1*12 3.0
   1.1*41 5.1 3.0*2 3.2*2 3.0*4 1.1*53 3.2*2 1.1*2 3.2*2 1.1*2 3.2*2 5.0 1.1*28 3.0*2 1.1*8 4.1*2
   1.1*2 5.0*6 3.2*16 5.0*4 5.1*16 5.2*2 6.0*2 7.0*8 none 1.1*38 none*2 1.1*7 11.0 1.1*39 11.0 1.1
   3.0 none*2 7.0*2 6.1 none 2.0*17 4.1 2.0*13 1.1*10 5.0 1.1*9 2.0 4.1*3 none*8 1.1*27 none*4
   11.0 1.1*5 none*11 4.0*4 6.1 7.0 5.1*5 4.1 1.1 4.0*9 5.1*5 1.1 6.3 14.0 4.1 1.1 6.0 1.1*26
   5.1*5 1.1*19 3.0*3 4.0*3 4.1*6 6.0 1.1*14 3.2*2 1.1*72 3.0*2 1.1*5 3.0 1.1*15 3.0 1.1*30 4.0*2
   1.1*10 3.0*5 4.0 3.0*14 none 3.0*30 4.0*3 3.0*27 none*2 4.0*3 4.1*30 5.1*18 3.0*49 3.2 none*14
   5.0*59 none*2 11.0*3 5.2*46 none*2 5.2*15 none 6.0*28 none*2 6.0 none 10.0*11 none*5 14.0*31
   none 14.0*2 none*5 16.0 14.0*8 6.1 7.0 6.1*11 7.0*6 8.0*2 14.0 9.0*8 13.0*10 14.0*11 11.0
   9.0*15 8.0 6.1*27 7.0 5.2 1.1*3 4.0 1.1*53 6.0*2 1.1*18 5.2 6.0 1.1*5 5.2 6.0*2 1.1*25 5.1*2
   6.0*5 7.0 5.2*2 5.0*2 4.1 5.0*2 7.0 1.1*3 none 1.1*8 none*2 1.1*2 none*2 1.1*22 none 1.1*7 none
   1.1 none*3 1.1*4 none*2 1.1 4.0 1.1*7 none*2 1.1*2 none*2 1.1*3 4.1 none*8 1.1 none*4 1.1*2
   none 1.1*5 none*2 1.1*21 5.2 10.0*2 11.0 none*2 4.0 1.1 4.0 none 1.1*6 none*4 1.1*2 none*2
   1.1*22 none 1.1*7 none 1.1*2 none 1.1*2 none 1.1*2 none*2 1.1 none 1.1*5 none*4 1.1*2 none*2
   1.1*3 none*3 5.1 none*7 1.1*4 none 1.1 none*7 1.1*15 5.1 11.0 none*10 1.1*3 none 1.1*7 4.0 1.1
   none 1.1*3 none 1.1*22 none 1.1*7 none 1.1*2 none 1.1*5 none*2 1.1*10 none 1.1*3 none 1.1*3
   none*2 1.1 none*15 1.1 4.0*3 none*2 1.1*10 6.1 4.0 none*7 8.0 10.0*6 none 1.1*3 none 1.1*8
   none*2 1.1*2 none*2 1.1*22 none 1.1*7 none 1.1*2 none 4.0 1.1*4 none*2 1.1*8 5.1 none*2 1.1*2
   none*2 1.1*3 none*7 13.0 1.1*2 none*4 1.1*2 none 1.1*3 5.1*2 none*2 1.1*11 4.0 6.0*6 none*10
   1.1*2 none 1.1*6 none*3 1.1*3 none 1.1*4 none*3 1.1*2 none 1.1 none 1.1*2 none*3 1.1*2 none*3
   1.1*3 none*3 1.1*8 4.1 1.1*3 none*4 1.1*5 none*3 1.1*3 none 1.1*4 none*2 5.1 none*6 1.1 none*14
   4.1 1.1*12 4.0*8 none*5 7.0 1.1*3 11.0 1.1*8 none 1.1*3 none 1.1*23 none 1.1*10 7.0 1.1*5
   none*2 14.0 5.1 1.1*7 none 1.1*3 none 1.1*4 none*7 1.1*2 none 5.1*2 8.0 none*2 14.0 none*2
   1.1*2 5.1*2 none*2 1.1*10 none*7 12.0 5.1*8 9.0 7.0 1.1*2 11.0 1.1*8 none 1.1*3 none 1.1*23
   none 1.1*10 none 1.1*5 none*2 4.0*2 1.1*7 none 1.1*3 none 1.1*4 none*7 1.1*2 none*6 14.0 1.1
   none 1.1*2 5.0*2 none*2 1.1*10 none 5.0*2 15.0 none*12 10.0 7.0 1.1*2 13.0 1.1*8 none 1.1*3
   none 1.1*23 6.0 1.1*16 6.0 10.0*2 5.1 1.1*6 5.1 none 1.1*3 none 1.1*4 6.0 9.0 none*4 9.0*3 1.1
   9.0*7 8.0 1.1*2 5.1*2 none*2 1.1*10 5.1*6 9.0*3 5.1*7 none 13.0 3.0*2 none 3.0*18 none*3 3.0*24
   none 3.0*9 none 3.0 none*2 3.0*7 none*3 3.0 none*4 3.0*6 none 3.0 none 3.0*8 none*6 7.0*10
   none*2 3.0*3 none*12 1.1*58 none*4 1.1*29 none*37 1.1*2 none 1.1 none 12.0 1.1*2 12.0 1.1 none
   12.0 1.1 12.0*6 1.1*4 12.0 1.1*7 12.0 1.1*3 none 1.1 none 1.1 12.0*2 1.1*2 12.0 1.1*13 12.0
   1.1*3 none*2 1.1*5 none 1.1 none 1.1*6 15.0 none 1.1*10 none*2 1.1*2 6.1*2 none*32 2.0*72 none
   2.0*33 3.0 5.1*2 none*4 2.0*27 6.0*4 2.0*6 3.0 2.0 none 2.0*21 3.0*3 2.0*7 3.0 2.0 3.0*3 none
   3.0*15 none 5.1 3.0 4.1*2 5.1*3 5.2*4 6.0*2 none*37 3.0*34 5.1 3.0*5 5.1 3.0*2 5.1 3.0*7 5.1*3
   3.0*4 5.1*6 3.0*26 5.1*64 5.2*4 5.1*2 1.1*38 none 6.1 none*5 6.1 none*2 1.1*39 3.2*2 4.1*2 1.1
   4.1 6.1*3 1.1*90 5.2*5 1.1*68 5.2*5 1.1*82 5.2*6 3.0*7 4.1 3.0*63 4.1 3.0 none 3.0*4 none*2
   3.0*7 none 3.0 none 3.0*4 none*2 3.0*39 4.1 3.0 none 3.0*4 none*2 3.0*31 4.1 3.0 none 3.0*4
   none*2 3.0*7 none 3.0 none 3.0*4 none*2 3.0*7 4.1 3.0*7 none 3.0*23 4.1 3.0*31 4.1 3.0 none
   3.0*4 none*2 3.0*7 4.1 3.0*39 4.1 3.0*19 none*2 6.0*2 4.1*2 3.0*28 none*3 4.1*26 none*6 3.0*85
   8.0 none*2 8.0*6 none*2 5.2 3.0*630 5.2*9 3.0*29 none*3 3.0*81 7.0*8 none*7 3.2*13 14.0 3.2*7
   14.0 none*9 14.0 3.2*23 none*9 3.2*20 none*12 3.2*13 none 3.2*3 none 3.2*2 none*12 3.0*93 4.0
   none*2 3.0*10 none*6 4.0*10 none*6 3.0*15 14.0 3.0*10 none*6 3.0*88 11.0 none*7 3.0*42 5.1
   none*5 5.2*70 none*10 4.0*29 7.0*2 none 4.0*12 none*4 4.0*12 none*4 4.0 none*3 4.0*42 none*2
   4.0*5 none*11 4.1*42 5.2*2 none*4 4.1*26 none*6 4.1*10 5.2 none*3 4.1*2 4.0*32 4.1*28 none*2
   4.1*2 5.2*63 none 5.2*29 none*2 5.2*11 none*6 5.2*10 none*6 5.2*14 none*2 7.0*15 13.0*2 14.0*14
   none*49 5.0*76 14.0 none 16.0*2 5.0*45 14.0*2 16.0 5.1*43 6.1*3 5.1*12 6.1*6 6.0*52 none*8
   6.0*4 5.1*56 none*3 5.1*15 none*3 5.1*51 9.0*9 16.0*2 none*5 11.0*43 none*2 11.0*3 6.1*8 none*8
   5.2*35 6.1*4 10.0 7.0*2 12.0 none*5 4.0*108 4.1*88 5.0*7 5.1*28 7.0*15 10.0*4 14.0 9.0 6.0 5.2
   5.0*2 1.1*155 2.0 5.1*4 1.1*90 5.1*6 1.1*22 none*2 1.1*6 none*2 1.1*38 none*2 1.1*6 none*2
   1.1*8 none 1.1 none 1.1 none 1.1 none 1.1*31 none*2 1.1*53 none 1.1*15 none 1.1*14 none*2 1.1*6
   none 1.1*19 none*2 1.1*3 none 1.1*9 none 1.1*47 3.0 1.1*23 3.2 3.0*6 3.2*5 4.0*2 4.1*2 3.2
   4.1*7 3.2*5 5.1 none 6.3*4 1.1*7 3.2 none*2 1.1*27 none 4.1*5 6.0*8 none*3 1.1*11 2.0 2.1 3.0*3
   3.2*2 4.1*4 5.2*3 6.0 6.2 7.0*3 8.0 10.0 14.0 none*15 1.1*18 3.0*2 3.2*7 4.1 5.0*4 5.1 none*15
   1.1*57 3.0*2 4.0 4.1 3.2*15 4.1 5.0*2 5.1 5.2*3 1.1*48 3.0 5.0 5.1*4 5.2 8.0*2 none*4 1.1*91
   3.0*9 3.2*12 1.1*242 3.2*14 1.1 3.0 1.1*121 3.0 3.2 3.0*30 3.2*52 4.0*2 4.1*11 5.0*12 5.2
   6.0*11 7.0*7 9.0*4 10.0 1.1*37 3.0*2 16.0*3 none*22 1.1*11 none*21 1.1*139 3.2*20 4.0 1.1*150
   3.2*10 1.1*80 3.0*8 3.2*8 1.1*20 4.0*2 3.2*2 4.1 3.0 1.1*86 3.0*2 3.2*12 4.1*2 3.2*10 4.0*8
   4.1*11 5.1 5.2*2 4.0*2 4.1*16 5.0 5.1*10 5.2*3 5.1*4 5.2*10 6.0 5.2*19 6.0 5.2 6.0*4 5.2*24 7.0
   1.1*4 6.0 1.1*4 6.0*2 1.1*28 6.0 1.1*35 6.0 1.1 6.0 1.1*4 6.0*3 1.1 5.2 1.1*7 6.0*2 1.1*7
   3.2*14 1.1*31 6.0*3 1.1*24 6.0 1.1*14 6.0 4.1*7 5.0*4 6.1 5.1 6.1 6.0*2 3.2*28 5.1*4 3.2*16
   3.0*256 3.2*512 4.0*14 4.1*6 5.0*7 5.1*5 5.0*4 5.1*41 7.0*3 5.1*5 5.2*5 7.0*26 none*2 7.0*32
   none 13.0 7.0*34 11.0*3 7.0*12 12.0 7.0*8 10.0 11.0*25 8.0*4 11.0*15 12.0 4.1*47 14.0 4.1*47
   14.0 5.0*13 5.1*3 5.2 5.1*3 5.0*4 5.1*6 5.2*2 4.1*107 5.2*7 6.1*2 none*5 4.1*45 none 6.1 none*5
   6.1 none*2 4.1*54 6.1*2 none*7 4.1 6.0 none*14 6.0 4.1*23 none*9 4.1*7 none 4.1*7 none 4.1*7
   none 4.1*7 none 4.1*7 none 4.1*7 none 4.1*7 none 4.1*7 none 5.1*32 4.1*24 5.1*4 4.1*2 5.1*19
   5.2 6.1*10 7.0*7 9.0*2 10.0*5 11.0*5 12.0 13.0*3 14.0*11 none*34 3.0*26 none 3.0*89 none*12
   3.0*214 none*26 3.0*12 15.1*4 1.1*56 3.0*3 3.2*3 3.0 1.1 none 1.1*84 3.2*2 none*2 1.1*6 3.2*2
   1.1*94 3.2 none*5 1.1*40 5.1 10.0 11.0 none 1.1*94 none 1.1*16 3.0*24 6.0*3 13.0*5 4.1*16
   5.1*20 16.0*2 none*9 15.1 3.2*16 1.1*29 4.0*2 none 1.1*36 5.2*12 4.0 3.2*15 1.1*28 4.0*2 4.1
   1.1*50 3.2*15 1.1*12 4.0*4 1.1*47 12.1 1.1*119 4.0*4 1.1*99 4.0*2 1.1*31 4.0 3.0*6582 13.0*10
   4.0*64 1.1*20902 4.1*22 5.1*8 5.2*8 6.1 8.0*9 10.0*21 11.0*5 13.0*13 14.0*3 3.0*1165 none*3
   3.0*18 3.2*2 3.0*16 3.2 3.0*12 3.2 3.0*3 3.2 3.0 none*9 5.2*48 5.1*300 none*20 5.1*32 6.0*2
   5.1*18 6.1*8 5.1*28 7.0*6 8.0 6.1 5.2*88 none*8 4.1*23 5.0*4 5.1*5 5.0*2 5.1*107 6.0*2 8.0
   6.0*2 6.1*2 7.0*12 6.0*10 6.1 7.0*3 9.0 11.0 7.0*2 8.0*6 11.0*2 12.0*6 14.0*2 12.0*5 13.0*4
   16.0*3 none*2 14.0*2 none 14.0 none 14.0*5 16.0*3 none*21 14.0*3 13.0*2 7.0 6.1*2 6.0 5.1*5
   4.1*44 13.0 none*3 5.2*10 none*6 5.0*56 none*8 5.1*69 9.0 none*8 5.1*12 none*6 5.2*28 8.0*2
   11.0*2 5.1*84 none*11 5.1 5.2*29 none*3 5.2*78 none 5.2*11 none*4 5.2*2 7.0*31 none 5.1*55
   none*9 5.1*14 none*2 5.1*10 none*2 5.1*4 5.2*28 7.0*4 5.2*67 none*24 5.2*5 6.1*23 none*10 6.0*6
   none*2 6.0*6 none*2 6.0*6 none*9 6.0*7 none 6.0*7 none 7.0*48 8.0*4 7.0*2 12.0*2 13.0*4 none*4
   8.0*80 5.2*46 none*2 5.2*10 none*6 2.0*11172 none*12 5.2*23 none*4 5.2*49 none*2052 1.1*6702
   6.1*2 3.2*59 5.2*3 none*2 4.1*106 none*38 1.1*7 none*12 1.1*5 none*5 3.0 1.1*25 none 1.1*5 none
   1.1 none 1.1*2 none 1.1*2 none 1.1*108 6.0*16 14.0 none*16 1.1*365 14.0*16 1.1*64 none*2 1.1*54
   none*7 14.0 3.1*32 1.1*12 3.2 4.0 14.0*2 3.2*16 4.1*10 none*6 1.1*4 5.1*3 7.0*7 8.0*2 1.1*21
   3.2*2 4.0*2 1.1*10 none 1.1*19 none 1.1*4 none*4 1.1*3 3.2 1.1 none 1.1*135 none*2 1.1 none
   1.1*94 3.2*2 1.1*94 none*3 1.1*6 none*2 1.1*6 none*2 1.1*6 none*2 1.1*3 none*3 1.1*7 none 1.1*7
   none*10 3.0*3 2.1 1.1*3 4.0*12 none 4.0*26 none 4.0*19 none 4.0*2 none 4.0*15 none*2 4.0*14
   none*34 4.0*123 none*5 4.0*3 none*4 4.0*45 none*3 4.0*9 4.1*75 7.0*2 9.0*2 none 5.1*12 13.0
   none*3 7.0 none*47 5.1*46 none*130 5.1*29 none*3 5.1*49 none*15 7.0*28 none*4 3.1*31 7.0 3.1*4
   none*9 10.0*3 3.1*27 none*5 7.0*43 none*5 4.0*30 none 4.0 4.1*36 none*4 4.1*14 none*42 3.1*38
   4.0*2 3.1*38 4.0*80 none*2 4.0*10 none*6 9.0*36 none*4 9.0*36 none*4 7.0*40 none*8 7.0*52
   none*11 7.0 14.0*11 none 14.0*15 none 14.0*7 none 14.0*2 none 14.0*11 none 14.0*15 none 14.0*7
   none 14.0*2 none*3 16.0*52 none*12 7.0*311 none*9 7.0*22 none*10 7.0*8 none*24 14.0*6 none
   14.0*42 none 14.0*9 none*69 4.0*6 none*2 4.0 none 4.0*44 none 4.0*2 none*3 4.0 none*2 4.0
   5.2*22 none 5.2*9 7.0*63 none*8 7.0*9 none*48 8.0*19 none 8.0*2 none*5 8.0*5 5.0*26 5.2*2
   none*3 5.0 5.1*26 none*5 5.1 none*64 6.1*56 none*4 8.0*2 6.1*2 8.0*16 none*2 8.0*46 4.1*4 none
   4.1*2 none*5 4.1*8 none 4.1*3 none 4.1*27 11.0*2 none*2 4.1*3 none*4 4.1*9 11.0 none*7 4.1*9
   none*7 5.2*32 7.0*32 none*32 7.0*39 none*4 7.0*12 none*9 5.2*54 none*3 5.2*29 none*2 5.2*27
   none*5 5.2*8 7.0*18 none*7 7.0*4 none*12 7.0*7 none*80 5.2*73 none*55 8.0*51 none*13 8.0*51
   none*7 8.0*6 11.0*40 none*8 11.0*10 none*6 16.0*38 none*3 16.0*29 none*8 16.0*2 none*208 5.2*31
   none 13.0*42 none 13.0*3 none*2 13.0*2 none*16 16.0*3 none*55 16.0 15.0*3 11.0*40 none*8
   11.0*42 none*22 14.0*26 none*38 13.0*28 none*20 12.0*23 none*9 6.0*78 none*4 6.0*30 14.0*6
   none*9 7.0 5.2*66 14.0 none*10 11.0 none*2 6.1*25 none*7 6.1*10 none*6 6.1*53 none 6.1*14
   11.0*3 13.0 none*8 7.0*39 none*9 6.1*73 8.0*4 7.0 13.0*2 6.1*10 7.0 8.0*5 none 7.0*20 none*11
   7.0*18 none 7.0*43 9.0 15.0*3 none*62 8.0*7 none 8.0 none 8.0*4 none 8.0*15 none 8.0*11 none*6
   7.0*59 none*5 7.0*10 none*6 8.0 7.0*3 none 7.0*8 none*2 7.0*2 none*2 7.0*22 none 7.0*7 none
   7.0*2 none 7.0*5 none 11.0 7.0*9 none*2 7.0*2 none*2 7.0*3 none*2 8.0 none*6 7.0 none*5 7.0*7
   none*2 7.0*7 none*3 7.0*5 none*11 16.0*10 none 16.0 none*2 16.0 none 16.0*38 none 16.0*10 none
   16.0 none*2 16.0 none 16.0*4 none 16.0*10 none 16.0*2 none*8 16.0*2 none*29 9.0*90 13.0 9.0
   none 9.0 11.0 12.0 13.0*2 none*30 7.0*72 none*8 7.0*10 none*166 7.0*54 none*2 7.0*18 8.0*20
   none*34 7.0*69 none*11 7.0*10 none*6 9.0*13 none*19 6.1*56 12.0 14.0 none*6 6.1*10 none*6
   16.0*20 none*28 8.0*26 11.0 none*2 8.0*15 none*4 8.0*16 14.0*7 none*185 11.0*60 none*100 7.0*83
   none*12 7.0 13.0*7 none*2 13.0 none*2 13.0*8 none 13.0*2 none 13.0*30 none 13.0*2 none*2
   13.0*12 none*9 13.0*10 none*70 12.0*8 none*2 12.0*46 none*2 12.0*11 none*27 10.0*72 none*8
   10.0*52 12.0*2 10.0*23 11.0 10.0*5 none*13 14.0*16 7.0*57 none*7 15.0*10 none*182 16.0*34
   none*14 16.0*10 none*6 9.0*9 none 9.0*45 none 9.0*14 none*10 9.0*29 none*3 9.0*32 none*2 9.0*22
   none 9.0*14 none*73 10.0*7 none 10.0*2 none 10.0*44 none*3 10.0 none 10.0*2 none 10.0*9 none*8
   10.0*10 none*6 11.0*6 none 11.0*2 none 11.0*37 none 11.0*2 none 11.0*6 none*7 11.0*10 none*310
   11.0*25 none*7 15.0*17 none 15.0*41 none*3 15.0*28 16.0 none*85 13.0 none*15 12.0*50 none*13
   12.0 5.0*879 7.0*42 8.0 none*102 5.0*99 7.0*12 none 5.0*4 7.0 none*11 8.0*196 none*2636 14.0*99
   none*13 5.2*1071 15.0 12.0*9 15.0*29 none*10 16.0*3995 none*5 8.0*583 none*6841 16.0*58
   none*1734 6.0*569 none*7 7.0*31 none 7.0*10 none*4 7.0*2 14.0*79 none 14.0*10 none*6 7.0*30
   none*2 7.0*6 none*10 7.0*70 none*10 7.0*10 none 7.0*7 none 7.0*21 none*5 7.0*19 none*432
   16.0*58 none*198 11.0*91 none*101 6.1*69 12.0*6 none*4 12.0 6.1*47 12.0*9 none*7 6.1*17 none*64
   9.0 10.0 12.0*2 13.0 none*11 13.0*2 none*14 9.0*6125 11.0*5 12.0*6 none*8 9.0*755 13.0*483
   none*41 16.0 13.0*9 none*8935 14.0*4 none 14.0*7 none 14.0*2 none 6.0*2 10.0*285 14.0*4 none*15
   15.0 none*29 12.0*3 none*2 15.0 none*14 12.0*4 none*8 10.0*396 none*2308 7.0*107 none*5 7.0*13
   none*3 7.0*9 none*7 7.0*10 none*2 7.0*8 none*3932 16.0*250 none*6 16.0*436 none*76 14.0*46
   none*2 14.0*23 none*9 14.0*116 none*60 3.1*246 none*10 3.1*39 none*2 5.1 3.1*180 8.0*11 14.0*2
   none*21 4.1*70 none*122 15.0*20 none*12 11.0*20 none*12 4.0*87 none*9 5.0*18 11.0*7 none*135
   3.1*85 none 3.1*71 none 3.1*2 none*2 3.1 none*2 3.1*2 none*2 3.1*4 none 3.1*12 none 3.1 none
   3.1*4 4.0 3.1*2 none 3.1*65 none 3.1*4 none*2 3.1*8 none 3.1*7 none 3.1*28 none 3.1*4 none
   3.1*5 none 3.1 none*3 3.1*7 none 3.1*338 4.1*2 none*2 3.1*290 5.0*2 none*2 3.1*50 8.0*652
   none*15 8.0*5 none 8.0*15 none*1104 14.0*31 none*6 15.0*6 none*213 9.0*7 none 9.0*17 none*2
   9.0*7 none 9.0*2 none 9.0*5 none*5 15.0*62 none*33 15.0 none*112 12.0*45 none*3 12.0*14 none*2
   12.0*10 none*4 12.0*2 none*320 14.0*31 none*17 12.0*58 none*5 12.0 none*464 15.0*42 none*214
   16.0*43 none*4 16.0 none*480 14.0*7 none 14.0*4 none 14.0*2 none 14.0*15 none 7.0*197 none*2
   7.0*16 none*41 9.0*75 12.0 none*4 9.0*10 none*4 9.0*2 none*785 11.0*68 none*76 12.0*61 none*194
   6.1*4 none 6.1*27 none 6.1*2 none 6.1 none*2 6.1 none 6.1*10 none 6.1*4 none 6.1 none 6.1
   none*6 6.1 none*4 6.1 none 6.1 none 6.1 none 6.1*3 none 6.1*2 none 6.1 none*2 6.1 none 6.1 none
   6.1 none 6.1 none 6.1 none 6.1*2 none 6.1 none*2 6.1*4 none 6.1*7 none 6.1*4 none 6.1*4 none
   6.1 none 6.1*10 none 6.1*17 none*5 6.1*3 none 6.1*5 none 6.1*17 none*52 6.1*2 none*270 5.1*44
   none*4 5.1*100 none*12 6.0*15 none*2 6.0*14 7.0 none 6.0*15 none 6.0*15 7.0*22 none*10 5.2*11
   7.0*2 13.0*3 5.2*31 11.0 6.0 5.2 6.0*11 5.2 6.0 5.2 6.0*2 5.2 6.0*3 5.2 6.0*3 5.2*5 6.0*8 5.2
   6.0*7 5.2 6.0*10 6.1*2 12.0 13.0*3 6.0*9 5.2 6.0 5.2*2 6.0*2 5.2 6.0*10 5.2*4 6.0*2 5.2 6.0*10
   9.0*18 13.0 none*56 6.0*26 5.2 6.0*2 none*13 5.2*34 6.0*9 9.0 none*4 5.2*9 none*7 6.0*2 none*14
   10.0*6 none*154 6.0*33 7.0*12 8.0*3 6.0*6 7.0 6.0*70 7.0 8.0*2 6.0*20 7.0*12 6.0*37 7.0 6.0*5
   7.0*4 8.0*5 7.0*12 6.0*17 7.0*7 8.0*8 6.0*63 7.0 6.0 7.0 6.0*182 7.0 6.0*4 7.0*2 8.0 6.0*62
   7.0*2 6.1*4 7.0*7 8.0*5 6.0*24 7.0*18 9.0 7.0*41 9.0 7.0*86 6.0*5 6.1 6.0*16 6.1 6.0*3 6.1 6.0
   6.1 6.0 6.1 6.0 6.1 6.0*3 6.1 6.0*6 6.1*2 6.0*4 6.1 6.0 6.1*2 6.0*4 6.1 6.0*12 7.0*2 8.0*2
   6.0*11 7.0*48 6.0*70 7.0*10 8.0 9.0*2 10.0*2 12.0 13.0*2 none*4 15.0 14.0*3 7.0*13 none*3 7.0*4
   9.0*3 10.0*2 11.0 12.0 13.0*2 none*3 6.0*116 15.0*3 none*4 15.0*5 7.0*85 11.0*4 15.0 none*6
   12.0*12 none*4 14.0 none*15 7.0*12 none*4 7.0*56 none*8 7.0*10 none*6 7.0*40 none*8 7.0*30
   none*2 13.0*2 16.0*10 none*4 16.0*2 none*62 10.0*12 13.0 12.0*3 8.0*9 9.0*6 10.0 9.0*8 10.0*8
   9.0 10.0*2 9.0*12 12.0 9.0*12 10.0 11.0*3 9.0*15 10.0*13 11.0*5 12.0 13.0 11.0*4 13.0*2 14.0
   11.0 12.0 11.0*4 8.0*5 9.0*13 10.0*6 11.0*11 13.0*2 12.0*6 13.0*3 12.0*2 11.0*10 12.0*6 8.0
   11.0*2 12.0*8 13.0 14.0 12.0*3 10.0*23 11.0*25 12.0*84 none*12 11.0*14 none*2 12.0*4 13.0
   15.0*3 12.0*3 14.0*2 none*3 12.0*3 13.0*4 15.0*2 16.0 none*5 16.0 12.0*6 13.0*19 14.0*4 15.0*3
   13.0*7 14.0*4 15.0*3 16.0 15.0 13.0*3 14.0*3 16.0 none*7 15.0*2 13.0*7 14.0*3 15.0*2 16.0
   none*2 16.0 14.0*8 15.0 16.0 none*6 14.0*7 15.0*2 none*7 13.0*147 none 13.0*55 16.0*37 13.0*10
   none*1028 2.0*2 3.1*42711 13.0*7 14.0*2 none*32 5.2*4149 14.0*4 15.0 none*6 6.0*222 none*2
   8.0*5762 none*14 10.0*7473 none*15 15.1*622 none*2466 3.1*542 none*1504 2.0*2 13.0*4939 none*5
   15.0*4192 none*56398 2.0*2 none*65534 2.0*2 none*65534 2.0*2 none*65534 2.0*2 none*65534 2.0*2
   none*65534 2.0*2 none*65534 2.0*2 none*65534 2.0*2 none*65534 2.0*2 none*65534 2.0*2 none*65534
   2.0*2 none 3.1 none*30 3.1*96 none*128 4.0*240 none*65038 2.0*131074"

/-- The versions up to the one with a name in loose form: its number, or the letter `v` and the
number without its point. -/
def versionsTo? (name : String) : Option (List String) :=
  let isNamed (version : String) : Bool :=
    name == version || name.toList == 'v' :: version.toList.filter (· ≠ '.')
  (versions.findIdx? isNamed).map fun i => versions.take (i + 1)

/-- The characters that the version with a name in loose form has. -/
def named? (name : String) : Option CharSet :=
  (versionsTo? name).map fun known => Table.labelled (Table.runs text) known.contains

end Age
end Unicode
end RemoteTable
