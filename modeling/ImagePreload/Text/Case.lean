import ImagePreload.Text.CaseMap
import ImagePreload.Text.Letter

/-!
# Upper, lower and title case

The mappings are the full ones of the Unicode character database, so a character may become
several (`ß` becomes `SS`). The one rule that looks around is the one for sigma, which has a form
of its own at the end of a word.
-/

namespace ImagePreload.Text

def upperMap : CaseMap := .read
  ["61-7a<20 b5>2e7 df=53.53 e0-f6<20 f8-fe<20 ff>79 101-12f/2<1 131<e8 133-137/2<1 13a-148/2<1",
    "149=2bc.4e 14b-177/2<1 17a-17e/2<1 17f<12c 180>c3 183-185/2<1 188<1 18c<1 192<1 195>61 199<1",
    "19a>a3 19e>82 1a1-1a5/2<1 1a8<1 1ad<1 1b0<1 1b4-1b6/2<1 1b9<1 1bd<1 1bf>38 1c5<1 1c6<2 1c8<1",
    "1c9<2 1cb<1 1cc<2 1ce-1dc/2<1 1dd<4f 1df-1ef/2<1 1f0=4a.30c 1f2<1 1f3<2 1f5<1 1f9-21f/2<1",
    "223-233/2<1 23c<1 23f-240>2a3f 242<1 247-24f/2<1 250>2a1f 251>2a1c 252>2a1e 253<d2 254<ce",
    "256-257<cd 259<ca 25b<cb 25c>a54f 260<cd 261>a54b 263<cf 265>a528 266>a544 268<d1 269<d3",
    "26a>a544 26b>29f7 26c>a541 26f<d3 271>29fd 272<d5 275<d6 27d>29e7 280<da 282>a543 283<da",
    "287>a52a 288<da 289<45 28a-28b<d9 28c<47 292<db 29d>a515 29e>a512 345>54 371-373/2<1 377<1",
    "37b-37d>82 390=399.308.301 3ac<26 3ad-3af<25 3b0=3a5.308.301 3b1-3c1<20 3c2<1f 3c3-3cb<20",
    "3cc<40 3cd-3ce<3f 3d0<3e 3d1<39 3d5<2f 3d6<36 3d7<8 3d9-3ef/2<1 3f0<56 3f1<50 3f2>7 3f3<74",
    "3f5<60 3f8<1 3fb<1 430-44f<20 450-45f<50 461-481/2<1 48b-4bf/2<1 4c2-4ce/2<1 4cf<f",
    "4d1-52f/2<1 561-586<30 587=535.552 10d0-10fa>bc0 10fd-10ff>bc0 13f8-13fd<8 1c80<186e",
    "1c81<186d 1c82<1864 1c83-1c84<1862 1c85<1863 1c86<185c 1c87<1825 1c88>89c2 1d79>8a04",
    "1d7d>ee6 1d8e>8a38 1e01-1e95/2<1 1e96=48.331 1e97=54.308 1e98=57.30a 1e99=59.30a 1e9a=41.2be",
    "1e9b<3b 1ea1-1eff/2<1 1f00-1f07>8 1f10-1f15>8 1f20-1f27>8 1f30-1f37>8 1f40-1f45>8",
    "1f50=3a5.313 1f51-1f57/2>8 1f52=3a5.313.300 1f54=3a5.313.301 1f56=3a5.313.342 1f60-1f67>8",
    "1f70-1f71>4a 1f72-1f75>56 1f76-1f77>64 1f78-1f79>80 1f7a-1f7b>70 1f7c-1f7d>7e 1f80=1f08.399",
    "1f81=1f09.399 1f82=1f0a.399 1f83=1f0b.399 1f84=1f0c.399 1f85=1f0d.399 1f86=1f0e.399",
    "1f87=1f0f.399 1f88=1f08.399 1f89=1f09.399 1f8a=1f0a.399 1f8b=1f0b.399 1f8c=1f0c.399",
    "1f8d=1f0d.399 1f8e=1f0e.399 1f8f=1f0f.399 1f90=1f28.399 1f91=1f29.399 1f92=1f2a.399",
    "1f93=1f2b.399 1f94=1f2c.399 1f95=1f2d.399 1f96=1f2e.399 1f97=1f2f.399 1f98=1f28.399",
    "1f99=1f29.399 1f9a=1f2a.399 1f9b=1f2b.399 1f9c=1f2c.399 1f9d=1f2d.399 1f9e=1f2e.399",
    "1f9f=1f2f.399 1fa0=1f68.399 1fa1=1f69.399 1fa2=1f6a.399 1fa3=1f6b.399 1fa4=1f6c.399",
    "1fa5=1f6d.399 1fa6=1f6e.399 1fa7=1f6f.399 1fa8=1f68.399 1fa9=1f69.399 1faa=1f6a.399",
    "1fab=1f6b.399 1fac=1f6c.399 1fad=1f6d.399 1fae=1f6e.399 1faf=1f6f.399 1fb0-1fb1>8",
    "1fb2=1fba.399 1fb3=391.399 1fb4=386.399 1fb6=391.342 1fb7=391.342.399 1fbc=391.399 1fbe<1c25",
    "1fc2=1fca.399 1fc3=397.399 1fc4=389.399 1fc6=397.342 1fc7=397.342.399 1fcc=397.399",
    "1fd0-1fd1>8 1fd2=399.308.300 1fd3=399.308.301 1fd6=399.342 1fd7=399.308.342 1fe0-1fe1>8",
    "1fe2=3a5.308.300 1fe3=3a5.308.301 1fe4=3a1.313 1fe5>7 1fe6=3a5.342 1fe7=3a5.308.342",
    "1ff2=1ffa.399 1ff3=3a9.399 1ff4=38f.399 1ff6=3a9.342 1ff7=3a9.342.399 1ffc=3a9.399 214e<1c",
    "2170-217f<10 2184<1 24d0-24e9<1a 2c30-2c5f<30 2c61<1 2c65<2a2b 2c66<2a28 2c68-2c6c/2<1",
    "2c73<1 2c76<1 2c81-2ce3/2<1 2cec-2cee/2<1 2cf3<1 2d00-2d25<1c60 2d27<1c60 2d2d<1c60",
    "a641-a66d/2<1 a681-a69b/2<1 a723-a72f/2<1 a733-a76f/2<1 a77a-a77c/2<1 a77f-a787/2<1 a78c<1",
    "a791-a793/2<1 a794>30 a797-a7a9/2<1 a7b5-a7c3/2<1 a7c8-a7ca/2<1 a7d1<1 a7d7-a7d9/2<1 a7f6<1",
    "ab53<3a0 ab70-abbf<97d0 fb00=46.46 fb01=46.49 fb02=46.4c fb03=46.46.49 fb04=46.46.4c",
    "fb05=53.54 fb06=53.54 fb13=544.546 fb14=544.535 fb15=544.53b fb16=54e.546 fb17=544.53d",
    "ff41-ff5a<20 10428-1044f<28 104d8-104fb<28 10597-105a1<27 105a3-105b1<27 105b3-105b9<27",
    "105bb-105bc<27 10cc0-10cf2<40 118c0-118df<20 16e60-16e7f<20 1e922-1e943<22"]

def lowerMap : CaseMap := .read
  ["41-5a>20 c0-d6>20 d8-de>20 100-12e/2>1 130=69.307 132-136/2>1 139-147/2>1 14a-176/2>1 178<79",
    "179-17d/2>1 181>d2 182-184/2>1 186>ce 187>1 189-18a>cd 18b>1 18e>4f 18f>ca 190>cb 191>1",
    "193>cd 194>cf 196>d3 197>d1 198>1 19c>d3 19d>d5 19f>d6 1a0-1a4/2>1 1a6>da 1a7>1 1a9>da 1ac>1",
    "1ae>da 1af>1 1b1-1b2>d9 1b3-1b5/2>1 1b7>db 1b8>1 1bc>1 1c4>2 1c5>1 1c7>2 1c8>1 1ca>2",
    "1cb-1db/2>1 1de-1ee/2>1 1f1>2 1f2-1f4/2>1 1f6<61 1f7<38 1f8-21e/2>1 220<82 222-232/2>1",
    "23a>2a2b 23b>1 23d<a3 23e>2a28 241>1 243<c3 244>45 245>47 246-24e/2>1 370-372/2>1 376>1",
    "37f>74 386>26 388-38a>25 38c>40 38e-38f>3f 391-3a1>20 3a3-3ab>20 3cf>8 3d8-3ee/2>1 3f4<3c",
    "3f7>1 3f9<7 3fa>1 3fd-3ff<82 400-40f>50 410-42f>20 460-480/2>1 48a-4be/2>1 4c0>f 4c1-4cd/2>1",
    "4d0-52e/2>1 531-556>30 10a0-10c5>1c60 10c7>1c60 10cd>1c60 13a0-13ef>97d0 13f0-13f5>8",
    "1c90-1cba<bc0 1cbd-1cbf<bc0 1e00-1e94/2>1 1e9e<1dbf 1ea0-1efe/2>1 1f08-1f0f<8 1f18-1f1d<8",
    "1f28-1f2f<8 1f38-1f3f<8 1f48-1f4d<8 1f59-1f5f/2<8 1f68-1f6f<8 1f88-1f8f<8 1f98-1f9f<8",
    "1fa8-1faf<8 1fb8-1fb9<8 1fba-1fbb<4a 1fbc<9 1fc8-1fcb<56 1fcc<9 1fd8-1fd9<8 1fda-1fdb<64",
    "1fe8-1fe9<8 1fea-1feb<70 1fec<7 1ff8-1ff9<80 1ffa-1ffb<7e 1ffc<9 2126<1d5d 212a<20bf",
    "212b<2046 2132>1c 2160-216f>10 2183>1 24b6-24cf>1a 2c00-2c2f>30 2c60>1 2c62<29f7 2c63<ee6",
    "2c64<29e7 2c67-2c6b/2>1 2c6d<2a1c 2c6e<29fd 2c6f<2a1f 2c70<2a1e 2c72>1 2c75>1 2c7e-2c7f<2a3f",
    "2c80-2ce2/2>1 2ceb-2ced/2>1 2cf2>1 a640-a66c/2>1 a680-a69a/2>1 a722-a72e/2>1 a732-a76e/2>1",
    "a779-a77b/2>1 a77d<8a04 a77e-a786/2>1 a78b>1 a78d<a528 a790-a792/2>1 a796-a7a8/2>1 a7aa<a544",
    "a7ab<a54f a7ac<a54b a7ad<a541 a7ae<a544 a7b0<a512 a7b1<a52a a7b2<a515 a7b3>3a0 a7b4-a7c2/2>1",
    "a7c4<30 a7c5<a543 a7c6<8a38 a7c7-a7c9/2>1 a7d0>1 a7d6-a7d8/2>1 a7f5>1 ff21-ff3a>20",
    "10400-10427>28 104b0-104d3>28 10570-1057a>27 1057c-1058a>27 1058c-10592>27 10594-10595>27",
    "10c80-10cb2>40 118a0-118bf>20 16e40-16e5f>20 1e900-1e921>22"]

def titleMap : CaseMap := .read
  ["61-7a<20 b5>2e7 df=53.73 e0-f6<20 f8-fe<20 ff>79 101-12f/2<1 131<e8 133-137/2<1 13a-148/2<1",
    "149=2bc.4e 14b-177/2<1 17a-17e/2<1 17f<12c 180>c3 183-185/2<1 188<1 18c<1 192<1 195>61 199<1",
    "19a>a3 19e>82 1a1-1a5/2<1 1a8<1 1ad<1 1b0<1 1b4-1b6/2<1 1b9<1 1bd<1 1bf>38 1c4>1 1c6<1 1c7>1",
    "1c9<1 1ca>1 1cc-1dc/2<1 1dd<4f 1df-1ef/2<1 1f0=4a.30c 1f1>1 1f3-1f5/2<1 1f9-21f/2<1",
    "223-233/2<1 23c<1 23f-240>2a3f 242<1 247-24f/2<1 250>2a1f 251>2a1c 252>2a1e 253<d2 254<ce",
    "256-257<cd 259<ca 25b<cb 25c>a54f 260<cd 261>a54b 263<cf 265>a528 266>a544 268<d1 269<d3",
    "26a>a544 26b>29f7 26c>a541 26f<d3 271>29fd 272<d5 275<d6 27d>29e7 280<da 282>a543 283<da",
    "287>a52a 288<da 289<45 28a-28b<d9 28c<47 292<db 29d>a515 29e>a512 345>54 371-373/2<1 377<1",
    "37b-37d>82 390=399.308.301 3ac<26 3ad-3af<25 3b0=3a5.308.301 3b1-3c1<20 3c2<1f 3c3-3cb<20",
    "3cc<40 3cd-3ce<3f 3d0<3e 3d1<39 3d5<2f 3d6<36 3d7<8 3d9-3ef/2<1 3f0<56 3f1<50 3f2>7 3f3<74",
    "3f5<60 3f8<1 3fb<1 430-44f<20 450-45f<50 461-481/2<1 48b-4bf/2<1 4c2-4ce/2<1 4cf<f",
    "4d1-52f/2<1 561-586<30 587=535.582 13f8-13fd<8 1c80<186e 1c81<186d 1c82<1864 1c83-1c84<1862",
    "1c85<1863 1c86<185c 1c87<1825 1c88>89c2 1d79>8a04 1d7d>ee6 1d8e>8a38 1e01-1e95/2<1",
    "1e96=48.331 1e97=54.308 1e98=57.30a 1e99=59.30a 1e9a=41.2be 1e9b<3b 1ea1-1eff/2<1",
    "1f00-1f07>8 1f10-1f15>8 1f20-1f27>8 1f30-1f37>8 1f40-1f45>8 1f50=3a5.313 1f51-1f57/2>8",
    "1f52=3a5.313.300 1f54=3a5.313.301 1f56=3a5.313.342 1f60-1f67>8 1f70-1f71>4a 1f72-1f75>56",
    "1f76-1f77>64 1f78-1f79>80 1f7a-1f7b>70 1f7c-1f7d>7e 1f80-1f87>8 1f90-1f97>8 1fa0-1fa7>8",
    "1fb0-1fb1>8 1fb2=1fba.345 1fb3>9 1fb4=386.345 1fb6=391.342 1fb7=391.342.345 1fbe<1c25",
    "1fc2=1fca.345 1fc3>9 1fc4=389.345 1fc6=397.342 1fc7=397.342.345 1fd0-1fd1>8 1fd2=399.308.300",
    "1fd3=399.308.301 1fd6=399.342 1fd7=399.308.342 1fe0-1fe1>8 1fe2=3a5.308.300 1fe3=3a5.308.301",
    "1fe4=3a1.313 1fe5>7 1fe6=3a5.342 1fe7=3a5.308.342 1ff2=1ffa.345 1ff3>9 1ff4=38f.345",
    "1ff6=3a9.342 1ff7=3a9.342.345 214e<1c 2170-217f<10 2184<1 24d0-24e9<1a 2c30-2c5f<30 2c61<1",
    "2c65<2a2b 2c66<2a28 2c68-2c6c/2<1 2c73<1 2c76<1 2c81-2ce3/2<1 2cec-2cee/2<1 2cf3<1",
    "2d00-2d25<1c60 2d27<1c60 2d2d<1c60 a641-a66d/2<1 a681-a69b/2<1 a723-a72f/2<1 a733-a76f/2<1",
    "a77a-a77c/2<1 a77f-a787/2<1 a78c<1 a791-a793/2<1 a794>30 a797-a7a9/2<1 a7b5-a7c3/2<1",
    "a7c8-a7ca/2<1 a7d1<1 a7d7-a7d9/2<1 a7f6<1 ab53<3a0 ab70-abbf<97d0 fb00=46.66 fb01=46.69",
    "fb02=46.6c fb03=46.66.69 fb04=46.66.6c fb05=53.74 fb06=53.74 fb13=544.576 fb14=544.565",
    "fb15=544.56b fb16=54e.576 fb17=544.56d ff41-ff5a<20 10428-1044f<28 104d8-104fb<28",
    "10597-105a1<27 105a3-105b1<27 105b3-105b9<27 105bb-105bc<27 10cc0-10cf2<40 118c0-118df<20",
    "16e60-16e7f<20 1e922-1e943<22"]

def foldMap : CaseMap := .read
  ["41-5a>20 b5>307 c0-d6>20 d8-de>20 df=73.73 100-12e/2>1 130=69.307 132-136/2>1 139-147/2>1",
    "149=2bc.6e 14a-176/2>1 178<79 179-17d/2>1 17f<10c 181>d2 182-184/2>1 186>ce 187>1 189-18a>cd",
    "18b>1 18e>4f 18f>ca 190>cb 191>1 193>cd 194>cf 196>d3 197>d1 198>1 19c>d3 19d>d5 19f>d6",
    "1a0-1a4/2>1 1a6>da 1a7>1 1a9>da 1ac>1 1ae>da 1af>1 1b1-1b2>d9 1b3-1b5/2>1 1b7>db 1b8>1 1bc>1",
    "1c4>2 1c5>1 1c7>2 1c8>1 1ca>2 1cb-1db/2>1 1de-1ee/2>1 1f0=6a.30c 1f1>2 1f2-1f4/2>1 1f6<61",
    "1f7<38 1f8-21e/2>1 220<82 222-232/2>1 23a>2a2b 23b>1 23d<a3 23e>2a28 241>1 243<c3 244>45",
    "245>47 246-24e/2>1 345>74 370-372/2>1 376>1 37f>74 386>26 388-38a>25 38c>40 38e-38f>3f",
    "390=3b9.308.301 391-3a1>20 3a3-3ab>20 3b0=3c5.308.301 3c2>1 3cf>8 3d0<1e 3d1<19 3d5<f 3d6<16",
    "3d8-3ee/2>1 3f0<36 3f1<30 3f4<3c 3f5<40 3f7>1 3f9<7 3fa>1 3fd-3ff<82 400-40f>50 410-42f>20",
    "460-480/2>1 48a-4be/2>1 4c0>f 4c1-4cd/2>1 4d0-52e/2>1 531-556>30 587=565.582 10a0-10c5>1c60",
    "10c7>1c60 10cd>1c60 13f8-13fd<8 1c80<184e 1c81<184d 1c82<1844 1c83-1c84<1842 1c85<1843",
    "1c86<183c 1c87<1824 1c88>89c3 1c90-1cba<bc0 1cbd-1cbf<bc0 1e00-1e94/2>1 1e96=68.331",
    "1e97=74.308 1e98=77.30a 1e99=79.30a 1e9a=61.2be 1e9b<3a 1e9e=73.73 1ea0-1efe/2>1 1f08-1f0f<8",
    "1f18-1f1d<8 1f28-1f2f<8 1f38-1f3f<8 1f48-1f4d<8 1f50=3c5.313 1f52=3c5.313.300",
    "1f54=3c5.313.301 1f56=3c5.313.342 1f59-1f5f/2<8 1f68-1f6f<8 1f80=1f00.3b9 1f81=1f01.3b9",
    "1f82=1f02.3b9 1f83=1f03.3b9 1f84=1f04.3b9 1f85=1f05.3b9 1f86=1f06.3b9 1f87=1f07.3b9",
    "1f88=1f00.3b9 1f89=1f01.3b9 1f8a=1f02.3b9 1f8b=1f03.3b9 1f8c=1f04.3b9 1f8d=1f05.3b9",
    "1f8e=1f06.3b9 1f8f=1f07.3b9 1f90=1f20.3b9 1f91=1f21.3b9 1f92=1f22.3b9 1f93=1f23.3b9",
    "1f94=1f24.3b9 1f95=1f25.3b9 1f96=1f26.3b9 1f97=1f27.3b9 1f98=1f20.3b9 1f99=1f21.3b9",
    "1f9a=1f22.3b9 1f9b=1f23.3b9 1f9c=1f24.3b9 1f9d=1f25.3b9 1f9e=1f26.3b9 1f9f=1f27.3b9",
    "1fa0=1f60.3b9 1fa1=1f61.3b9 1fa2=1f62.3b9 1fa3=1f63.3b9 1fa4=1f64.3b9 1fa5=1f65.3b9",
    "1fa6=1f66.3b9 1fa7=1f67.3b9 1fa8=1f60.3b9 1fa9=1f61.3b9 1faa=1f62.3b9 1fab=1f63.3b9",
    "1fac=1f64.3b9 1fad=1f65.3b9 1fae=1f66.3b9 1faf=1f67.3b9 1fb2=1f70.3b9 1fb3=3b1.3b9",
    "1fb4=3ac.3b9 1fb6=3b1.342 1fb7=3b1.342.3b9 1fb8-1fb9<8 1fba-1fbb<4a 1fbc=3b1.3b9 1fbe<1c05",
    "1fc2=1f74.3b9 1fc3=3b7.3b9 1fc4=3ae.3b9 1fc6=3b7.342 1fc7=3b7.342.3b9 1fc8-1fcb<56",
    "1fcc=3b7.3b9 1fd2=3b9.308.300 1fd3=3b9.308.301 1fd6=3b9.342 1fd7=3b9.308.342 1fd8-1fd9<8",
    "1fda-1fdb<64 1fe2=3c5.308.300 1fe3=3c5.308.301 1fe4=3c1.313 1fe6=3c5.342 1fe7=3c5.308.342",
    "1fe8-1fe9<8 1fea-1feb<70 1fec<7 1ff2=1f7c.3b9 1ff3=3c9.3b9 1ff4=3ce.3b9 1ff6=3c9.342",
    "1ff7=3c9.342.3b9 1ff8-1ff9<80 1ffa-1ffb<7e 1ffc=3c9.3b9 2126<1d5d 212a<20bf 212b<2046",
    "2132>1c 2160-216f>10 2183>1 24b6-24cf>1a 2c00-2c2f>30 2c60>1 2c62<29f7 2c63<ee6 2c64<29e7",
    "2c67-2c6b/2>1 2c6d<2a1c 2c6e<29fd 2c6f<2a1f 2c70<2a1e 2c72>1 2c75>1 2c7e-2c7f<2a3f",
    "2c80-2ce2/2>1 2ceb-2ced/2>1 2cf2>1 a640-a66c/2>1 a680-a69a/2>1 a722-a72e/2>1 a732-a76e/2>1",
    "a779-a77b/2>1 a77d<8a04 a77e-a786/2>1 a78b>1 a78d<a528 a790-a792/2>1 a796-a7a8/2>1 a7aa<a544",
    "a7ab<a54f a7ac<a54b a7ad<a541 a7ae<a544 a7b0<a512 a7b1<a52a a7b2<a515 a7b3>3a0 a7b4-a7c2/2>1",
    "a7c4<30 a7c5<a543 a7c6<8a38 a7c7-a7c9/2>1 a7d0>1 a7d6-a7d8/2>1 a7f5>1 ab70-abbf<97d0",
    "fb00=66.66 fb01=66.69 fb02=66.6c fb03=66.66.69 fb04=66.66.6c fb05=73.74 fb06=73.74",
    "fb13=574.576 fb14=574.565 fb15=574.56b fb16=57e.576 fb17=574.56d ff21-ff3a>20 10400-10427>28",
    "104b0-104d3>28 10570-1057a>27 1057c-1058a>27 1058c-10592>27 10594-10595>27 10c80-10cb2>40",
    "118a0-118bf>20 16e40-16e5f>20 1e900-1e921>22"]

def upperLetters : Ranges := .read
  ["41-5a c0-d6 d8-de 100-136/2 139-147/2 14a-178/2 179-17d/2 181-182 184-186/2 187-189/2",
    "18a-18b 18e-191 193-194 196-198 19c-19d 19f-1a0 1a2-1a6/2 1a7-1a9/2 1ac-1ae/2 1af-1b1/2",
    "1b2-1b3 1b5-1b7/2 1b8 1bc 1c4 1c7 1ca 1cd-1db/2 1de-1ee/2 1f1 1f4-1f6/2 1f7-1f8 1fa-232/2",
    "23a-23b 23d-23e 241-243/2 244-246 248-24e/2 370-372/2 376 37f 386-388/2 389-38a 38c-38e/2",
    "38f-391/2 392-3a1 3a3-3ab 3cf 3d2-3d4 3d8-3ee/2 3f4 3f7-3f9/2 3fa 3fd-42f 460-480/2",
    "48a-4c0/2 4c1-4cd/2 4d0-52e/2 531-556 10a0-10c5 10c7 10cd 13a0-13f5 1c90-1cba 1cbd-1cbf",
    "1e00-1e94/2 1e9e-1efe/2 1f08-1f0f 1f18-1f1d 1f28-1f2f 1f38-1f3f 1f48-1f4d 1f59-1f5f/2",
    "1f68-1f6f 1fb8-1fbb 1fc8-1fcb 1fd8-1fdb 1fe8-1fec 1ff8-1ffb 2102 2107 210b-210d 2110-2112",
    "2115 2119-211d 2124-212a/2 212b-212d 2130-2133 213e-213f 2145 2160-216f 2183 24b6-24cf",
    "2c00-2c2f 2c60-2c62/2 2c63-2c64 2c67-2c6d/2 2c6e-2c70 2c72 2c75 2c7e-2c80 2c82-2ce2/2",
    "2ceb-2ced/2 2cf2 a640-a66c/2 a680-a69a/2 a722-a72e/2 a732-a76e/2 a779-a77d/2 a77e-a786/2",
    "a78b-a78d/2 a790-a792/2 a796-a7aa/2 a7ab-a7ae a7b0-a7b4 a7b6-a7c4/2 a7c5-a7c7 a7c9 a7d0",
    "a7d6-a7d8/2 a7f5 ff21-ff3a 10400-10427 104b0-104d3 10570-1057a 1057c-1058a 1058c-10592",
    "10594-10595 10c80-10cb2 118a0-118bf 16e40-16e5f 1d400-1d419 1d434-1d44d 1d468-1d481",
    "1d49c-1d49e/2 1d49f 1d4a2 1d4a5-1d4a6 1d4a9-1d4ac 1d4ae-1d4b5 1d4d0-1d4e9 1d504-1d505",
    "1d507-1d50a 1d50d-1d514 1d516-1d51c 1d538-1d539 1d53b-1d53e 1d540-1d544 1d546 1d54a-1d550",
    "1d56c-1d585 1d5a0-1d5b9 1d5d4-1d5ed 1d608-1d621 1d63c-1d655 1d670-1d689 1d6a8-1d6c0",
    "1d6e2-1d6fa 1d71c-1d734 1d756-1d76e 1d790-1d7a8 1d7ca 1e900-1e921 1f130-1f149 1f150-1f169",
    "1f170-1f189"]

def lowerLetters : Ranges := .read
  ["61-7a aa b5 ba df-f6 f8-ff 101-137/2 138-148/2 149-177/2 17a-17e/2 17f-180 183-185/2 188",
    "18c-18d 192 195 199-19b 19e 1a1-1a5/2 1a8-1aa/2 1ab-1ad/2 1b0 1b4-1b6/2 1b9-1ba 1bd-1bf 1c6",
    "1c9 1cc-1dc/2 1dd-1ef/2 1f0 1f3-1f5/2 1f9-233/2 234-239 23c 23f-240 242 247-24f/2 250-293",
    "295-2b8 2c0-2c1 2e0-2e4 345 371-373/2 377 37a-37d 390 3ac-3ce 3d0-3d1 3d5-3d7 3d9-3ef/2",
    "3f0-3f3 3f5 3f8 3fb-3fc 430-45f 461-481/2 48b-4bf/2 4c2-4ce/2 4cf-52f/2 560-588 10d0-10fa",
    "10fd-10ff 13f8-13fd 1c80-1c88 1d00-1dbf 1e01-1e95/2 1e96-1e9d 1e9f-1eff/2 1f00-1f07",
    "1f10-1f15 1f20-1f27 1f30-1f37 1f40-1f45 1f50-1f57 1f60-1f67 1f70-1f7d 1f80-1f87 1f90-1f97",
    "1fa0-1fa7 1fb0-1fb4 1fb6-1fb7 1fbe 1fc2-1fc4 1fc6-1fc7 1fd0-1fd3 1fd6-1fd7 1fe0-1fe7",
    "1ff2-1ff4 1ff6-1ff7 2071 207f 2090-209c 210a 210e-210f 2113 212f 2134 2139 213c-213d",
    "2146-2149 214e 2170-217f 2184 24d0-24e9 2c30-2c5f 2c61 2c65-2c66 2c68-2c6c/2 2c71-2c73/2",
    "2c74-2c76/2 2c77-2c7d 2c81-2ce3/2 2ce4 2cec-2cee/2 2cf3 2d00-2d25 2d27 2d2d a641-a66d/2",
    "a681-a69b/2 a69c-a69d a723-a72f/2 a730-a731 a733-a76f/2 a770-a778 a77a-a77c/2 a77f-a787/2",
    "a78c-a78e/2 a791-a793/2 a794-a795 a797-a7a9/2 a7af a7b5-a7c3/2 a7c8-a7ca/2 a7d1-a7d9/2",
    "a7f6-a7f8/2 a7f9-a7fa ab30-ab5a ab5c-ab68 ab70-abbf fb00-fb06 fb13-fb17 ff41-ff5a",
    "10428-1044f 104d8-104fb 10597-105a1 105a3-105b1 105b3-105b9 105bb-105bc 10780 10783-10785",
    "10787-107b0 107b2-107ba 10cc0-10cf2 118c0-118df 16e60-16e7f 1d41a-1d433 1d44e-1d454",
    "1d456-1d467 1d482-1d49b 1d4b6-1d4b9 1d4bb-1d4bd/2 1d4be-1d4c3 1d4c5-1d4cf 1d4ea-1d503",
    "1d51e-1d537 1d552-1d56b 1d586-1d59f 1d5ba-1d5d3 1d5ee-1d607 1d622-1d63b 1d656-1d66f",
    "1d68a-1d6a5 1d6c2-1d6da 1d6dc-1d6e1 1d6fc-1d714 1d716-1d71b 1d736-1d74e 1d750-1d755",
    "1d770-1d788 1d78a-1d78f 1d7aa-1d7c2 1d7c4-1d7c9 1d7cb 1df00-1df09 1df0b-1df1e 1e922-1e943"]

def isUpperChar (c : Char) : Bool :=
  if c.toNat < 0x80 then c.isUpper else upperLetters.contains c

def isLowerChar (c : Char) : Bool :=
  if c.toNat < 0x80 then c.isLower else lowerLetters.contains c

/-- A letter of the digraphs that have a form with only the first half in upper case. -/
def isTitleChar (c : Char) : Bool :=
  !isUpperChar c && !isLowerChar c && lowerMap.apply c != [c]

def isCased (c : Char) : Bool := isUpperChar c || isLowerChar c || isTitleChar c

/-- A character in lower case, whatever stands around it. -/
def lowerChar (c : Char) : List Char :=
  if c.toNat < 0x80 then [c.toLower] else lowerMap.apply c

/-- A character in upper case. -/
def upperChar (c : Char) : List Char :=
  if c.toNat < 0x80 then [c.toUpper] else upperMap.apply c

def upper (s : String) : String := .ofList (s.toList.flatMap upperChar)

def foldCase (s : String) : String := .ofList (s.toList.flatMap foldMap.apply)

/-- Marks and signs that may stand inside a word without ending it. -/
private def isSkipped (c : Char) : Bool :=
  c == '\'' || c == '.' || c == ':' || c == '·' || c == '\u00ad' || c == '\u2019'

/-- Whether a cased letter comes next, signs inside the word left out. -/
private def meetsCased : List Char → Bool
  | [] => false
  | c :: cs => if isSkipped c then meetsCased cs else isCased c

/-- Lower case of the rest of a text, given what stands before it in reverse. -/
private def lowerFrom (before : List Char) : List Char → List Char
  | [] => []
  | c :: cs =>
    let out :=
      if c == 'Σ' then [if meetsCased before && !meetsCased cs then 'ς' else 'σ']
      else lowerChar c
    out ++ lowerFrom (c :: before) cs

def lower (s : String) : String := .ofList (lowerFrom [] s.toList)

/-- The first character in title case and the others in lower case. -/
def capitalize (s : String) : String :=
  match s.toList with
  | [] => ""
  | c :: cs => .ofList (titleMap.apply c ++ lowerFrom [c] cs)

private def titleFrom (before : List Char) : List Char → List Char
  | [] => []
  | c :: cs =>
    let inWord := (before.head?.map isCased).getD false
    let out :=
      if !inWord then titleMap.apply c
      else if c == 'Σ' then [if meetsCased before && !meetsCased cs then 'ς' else 'σ']
      else lowerChar c
    out ++ titleFrom (c :: before) cs

/-- Title case for the first letter of every run of cased letters, lower case for the rest. -/
def titleWords (s : String) : String := .ofList (titleFrom [] s.toList)

/-- Upper and lower case exchanged. -/
def swapCase (s : String) : String :=
  .ofList (s.toList.flatMap fun c => if isUpperChar c then lowerChar c else upperChar c)

/-- Some letter has a case, and every letter that has one is in upper case. -/
def isUpper (s : String) : Bool :=
  s.toList.any isUpperChar && !s.toList.any fun c => isLowerChar c || isTitleChar c

/-- Some letter has a case, and every letter that has one is in lower case. -/
def isLower (s : String) : Bool :=
  s.toList.any isLowerChar && !s.toList.any fun c => isUpperChar c || isTitleChar c

private def titledFrom (inWord seen : Bool) : List Char → Bool
  | [] => seen
  | c :: cs =>
    if isUpperChar c || isTitleChar c then !inWord && titledFrom true true cs
    else if isLowerChar c then inWord && titledFrom true true cs
    else titledFrom false seen cs

/-- Every run of cased letters starts in upper or title case and goes on in lower case. -/
def isTitled (s : String) : Bool := titledFrom false false s.toList

end ImagePreload.Text
